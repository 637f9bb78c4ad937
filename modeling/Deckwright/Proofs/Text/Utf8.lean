import Deckwright.Text.Utf8
set_option autoImplicit false

namespace Deckwright.Text

theorem octet_value {n : Nat} (small : n < 256) : (octet n).toNat = n := by
  simp only [octet, UInt8.toNat_ofNat']
  exact Nat.mod_eq_of_lt small

theorem continuation_value (n : Nat) : (octet (0x80 + n % 64)).toNat = 0x80 + n % 64 :=
  octet_value (by omega)

theorem continues (n : Nat) : isContinuation (octet (0x80 + n % 64)) = true := by
  rw [isContinuation, continuation_value]
  simp only [Bool.and_eq_true, decide_eq_true_eq]
  omega

theorem char_bound (c : Char) : c.toNat < 0x110000 := by
  rcases c.valid with low | ⟨_, high⟩
  · exact Nat.lt_trans low (by decide)
  · exact high

theorem char_scalar (c : Char) : isScalar c.toNat = true := by
  simp only [isScalar, Bool.or_eq_true, Bool.and_eq_true, decide_eq_true_eq]
  rcases c.valid with low | ⟨least, high⟩
  · exact .inl low
  · exact .inr ⟨least, high⟩

theorem scalar_from_char {c : Char} {least n : Nat} (rest : Octets) (enough : least ≤ c.toNat)
    (same : n = c.toNat) : scalarFrom least n rest = some (c, rest) := by
  subst same
  simp [scalarFrom, enough, char_scalar]

theorem next_char_octets (c : Char) (rest : Octets) : nextChar (charOctets c ++ rest) = some (c, rest) := by
  have bound := char_bound c
  unfold charOctets
  dsimp only
  by_cases one : c.toNat < 0x80
  · rw [if_pos one, List.singleton_append]
    unfold nextChar
    dsimp only
    rw [octet_value (by omega), if_pos one, Char.ofNat_toNat]
  rw [if_neg one]
  by_cases two : c.toNat < 0x800
  · have lead : (octet (0xC0 + c.toNat / 64)).toNat = 0xC0 + c.toNat / 64 := octet_value (by omega)
    rw [if_pos two, List.cons_append, List.cons_append, List.nil_append, nextChar]
    rw [lead, if_neg (by omega), if_neg (by omega), if_pos (by omega)]
    simp only [continues, continuation_value, if_true]
    exact scalar_from_char rest (by omega) (by omega)
  rw [if_neg two]
  by_cases three : c.toNat < 0x10000
  · have lead : (octet (0xE0 + c.toNat / 4096)).toNat = 0xE0 + c.toNat / 4096 := octet_value (by omega)
    rw [if_pos three, List.cons_append, List.cons_append, List.cons_append, List.nil_append, nextChar]
    rw [lead, if_neg (by omega), if_neg (by omega), if_neg (by omega), if_pos (by omega)]
    simp only [continues, continuation_value, Bool.and_self, if_true]
    exact scalar_from_char rest (by omega) (by omega)
  · have lead : (octet (0xF0 + c.toNat / 262144)).toNat = 0xF0 + c.toNat / 262144 := octet_value (by omega)
    rw [if_neg three, List.cons_append, List.cons_append, List.cons_append, List.cons_append, List.nil_append,
      nextChar]
    rw [lead, if_neg (by omega), if_neg (by omega), if_neg (by omega), if_neg (by omega), if_pos (by omega)]
    simp only [continues, continuation_value, Bool.and_self, if_true]
    exact scalar_from_char rest (by omega) (by omega)

theorem to_octets_cons (c : Char) (s : List Char) : toOctets (c :: s) = charOctets c ++ toOctets s := rfl

theorem to_octets_append (s t : List Char) : toOctets (s ++ t) = toOctets s ++ toOctets t := List.flatMap_append

theorem char_octets_some (c : Char) : charOctets c ≠ [] := by
  unfold charOctets
  dsimp only
  split
  · simp
  split
  · simp
  split <;> simp

theorem length_to_octets (s : List Char) : s.length ≤ (toOctets s).length := by
  induction s with
  | nil => exact Nat.le_refl 0
  | cons c rest ih =>
    have some := List.length_pos_iff.2 (char_octets_some c)
    rw [to_octets_cons, List.length_append, List.length_cons]
    omega

theorem read_from_octets {fuel : Nat} {s : List Char} (enough : s.length ≤ fuel) :
    readFrom fuel (toOctets s) = (s, []) := by
  induction s generalizing fuel with
  | nil => cases fuel <;> rfl
  | cons c rest ih =>
    cases fuel with
    | zero => exact absurd enough (by simp)
    | succ fuel =>
      rw [to_octets_cons, readFrom, next_char_octets]
      dsimp only
      rw [ih (Nat.le_of_succ_le_succ enough)]

theorem of_octets_to_octets (s : List Char) : ofOctets? (toOctets s) = some s := by
  rw [ofOctets?, readOctets, read_from_octets (length_to_octets s)]
  rfl

theorem ascii_octet {c : Char} {b : UInt8} (member : b ∈ charOctets c) (ascii : b.toNat < 0x80) :
    b.toNat = c.toNat := by
  have bound := char_bound c
  unfold charOctets at member
  dsimp only at member
  by_cases one : c.toNat < 0x80
  · rw [if_pos one, List.mem_singleton] at member
    rw [member, octet_value (by omega)]
  exfalso
  rw [if_neg one] at member
  have lead (base n : Nat) (high : 0x80 ≤ base + n) (small : base + n < 256) : b ≠ octet (base + n) := by
    rintro rfl
    rw [octet_value small] at ascii
    omega
  have tail (n : Nat) : b ≠ octet (0x80 + n % 64) := lead _ _ (by omega) (by omega)
  by_cases two : c.toNat < 0x800
  · simp [two, tail, lead 0xC0 (c.toNat / 64) (by omega) (by omega)] at member
  by_cases three : c.toNat < 0x10000
  · simp [two, three, tail, lead 0xE0 (c.toNat / 4096) (by omega) (by omega)] at member
  · simp [two, three, tail, lead 0xF0 (c.toNat / 262144) (by omega) (by omega)] at member

end Deckwright.Text
