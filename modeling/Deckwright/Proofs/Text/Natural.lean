import Deckwright.Text.Blank
import Deckwright.Text.Natural
set_option autoImplicit false

namespace Deckwright.Text

def Digits (s : List Char) : Prop := ∀ c ∈ s, isAsciiDigit c = true

theorem digits_append {s t : List Char} (left : Digits s) (right : Digits t) : Digits (s ++ t) := by
  intro c member
  exact (List.mem_append.1 member).elim (left c) (right c)

theorem digit_code {c : Char} (digit : isAsciiDigit c = true) : 48 ≤ c.toNat ∧ c.toNat ≤ 57 := by
  simpa [isAsciiDigit, Char.le_def, UInt32.le_iff_toNat_le] using digit

theorem digit_ne {c d : Char} (digit : isAsciiDigit c = true) (other : isAsciiDigit d = false) : c ≠ d := by
  rintro rfl
  rw [digit] at other
  cases other

theorem digit_not_blank {c : Char} (digit : isAsciiDigit c = true) : isBlank c = false := by
  obtain ⟨least, most⟩ := digit_code digit
  simp [isBlank]
  omega

theorem nat_digits (n : Nat) : Digits (Nat.toDigits 10 n) := by
  intro c member
  have digit := Nat.isDigit_of_mem_toDigits (by decide) (by decide) member
  simpa [Char.isDigit, isAsciiDigit, Char.le_def] using digit

theorem head_append {s : List Char} (t : List Char) (some : s ≠ []) : (s ++ t).head? = s.head? := by
  rw [List.head?_append, List.head?_eq_some_head some, Option.some_or]

theorem nat_head {n : Nat} (positive : n ≠ 0) : (Nat.toDigits 10 n).head? ≠ some '0' := by
  induction n using Nat.strongRecOn with
  | ind n ih =>
    by_cases small : n < 10
    · have digit : ∀ k < 10, k ≠ 0 → [k.digitChar].head? ≠ some '0' := by decide
      rw [Nat.toDigits_of_lt_base small]
      exact digit n small positive
    · rw [Nat.toDigits_of_base_le (by decide) (Nat.le_of_not_lt small), head_append _ Nat.toDigits_ne_nil]
      exact ih (n / 10) (by omega) (by omega)

theorem of_digits_grows (ds : List Char) (n : Nat) : n ≤ Nat.ofDigitChars 10 ds n := by
  induction ds generalizing n with
  | nil => exact Nat.le_of_eq Nat.ofDigitChars_nil.symm
  | cons c rest ih =>
    rw [Nat.ofDigitChars_cons]
    have later := ih (10 * n + (c.toNat - '0'.toNat))
    omega

theorem natural_from_digits {limit : Nat} {ds : List Char} (digits : Digits ds) (n : Nat)
    (within : Nat.ofDigitChars 10 ds n ≤ limit) : naturalFrom limit n ds = .ok (Nat.ofDigitChars 10 ds n) := by
  induction ds generalizing n with
  | nil => rw [Nat.ofDigitChars_nil]; rfl
  | cons c rest ih =>
    have digit := digits c (by simp)
    rw [Nat.ofDigitChars_cons, Nat.mul_comm] at within ⊢
    have step : n * 10 + (c.toNat - '0'.toNat) ≤ limit := Nat.le_trans (of_digits_grows rest _) within
    have later := ih (fun d member => digits d (List.mem_cons_of_mem c member)) _ within
    simp only [naturalFrom, digit, Bool.not_true, if_pos step, later]
    rfl

theorem read_natural_digits {limit n : Nat} (within : n ≤ limit) :
    readNatural limit (Nat.toDigits 10 n) = .ok n := by
  have digits := nat_digits n
  have value : Nat.ofDigitChars 10 (Nat.toDigits 10 n) 0 = n := Nat.ofDigitChars_ten_toDigits
  have some : Nat.toDigits 10 n ≠ [] := Nat.toDigits_ne_nil
  generalize Nat.toDigits 10 n = ds at digits value some
  have read := natural_from_digits digits 0 (value.symm ▸ within)
  rw [value] at read
  unfold readNatural
  split
  · exact absurd rfl some
  · exact absurd (digits '+' (by simp)) (by decide)
  · exact absurd (digits '+' (by simp)) (by decide)
  · exact read

end Deckwright.Text
