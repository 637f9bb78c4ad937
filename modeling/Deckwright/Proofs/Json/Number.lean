import Deckwright.Json.Decoder
import Deckwright.Json.Printer
import Deckwright.Proofs.Binary64.Decimal
set_option autoImplicit false

namespace Deckwright

namespace Json

open Text (Digits nat_digits digits_append head_append nat_head)
open Binary64 (takeDigits take_digits zeros zeros_digits digitValue ofDigits)

def Calm (rest : List Char) : Prop :=
  ∀ c ∈ rest.head?, Text.isAsciiDigit c = false ∧ c ≠ '.' ∧ c ≠ 'e' ∧ c ≠ 'E'

theorem calm_nil : Calm [] := by simp [Calm]

theorem calm_cons {c : Char} {rest : List Char} (away : Text.isAsciiDigit c = false ∧ c ≠ '.' ∧ c ≠ 'e' ∧ c ≠ 'E') :
    Calm (c :: rest) := by
  intro d first
  obtain rfl := Option.some.inj first
  exact away

theorem calm_stop {rest : List Char} (calm : Calm rest) : ∀ c ∈ rest.head?, Text.isAsciiDigit c = false :=
  fun c first => (calm c first).1

structure Lead (s : List Char) : Prop where
  digits : Digits s
  some : s ≠ []
  zero : s.head? = .some '0' → s = ['0']

theorem lead_nat (n : Nat) : Lead (Nat.toDigits 10 n) where
  digits := nat_digits n
  some := Nat.toDigits_ne_nil
  zero first := by
    by_cases none : n = 0
    · rw [none, Nat.toDigits_zero]
    · exact absurd first (nat_head none)

theorem lead_of_head {s : List Char} (digits : Digits s) (some : s ≠ []) (head : s.head? ≠ .some '0') : Lead s :=
  ⟨digits, some, fun first => absurd first head⟩

theorem whole_part {whole rest : List Char} (lead : Lead whole)
    (stop : ∀ c ∈ rest.head?, Text.isAsciiDigit c = false) : wholePart (whole ++ rest) = some (whole, rest) := by
  obtain ⟨d, ds, rfl⟩ := List.exists_cons_of_ne_nil lead.some
  by_cases zero : d = '0'
  · subst zero
    rw [lead.zero rfl, List.singleton_append, wholePart]
    cases rest with
    | nil => rfl
    | cons c tail => simp [stop c rfl]
  · have taken := take_digits lead.digits stop
    rw [List.cons_append] at taken ⊢
    unfold wholePart
    split
    · rename_i same
      exact absurd (List.cons.inj same).1 zero
    · rw [taken]
      rfl

def fractionText : Option (List Char) → List Char
  | none => []
  | some ds => '.' :: ds

def exponentText : Option (Bool × List Char) → List Char
  | none => []
  | some (negative, ds) => 'e' :: (if negative then '-' else '+') :: ds

def exponentValue : Bool × List Char → Int
  | (negative, ds) => if negative then -(ofDigits ds : Int) else (ofDigits ds : Int)

theorem no_fraction {rest : List Char} (stop : ∀ c ∈ rest.head?, c ≠ '.') : fractionPart rest = some (none, rest) := by
  cases rest with
  | nil => rfl
  | cons c tail => simp [fractionPart, stop c rfl]

theorem no_exponent {rest : List Char} (calm : Calm rest) : exponentPart rest = some (none, rest) := by
  cases rest with
  | nil => rfl
  | cons c tail => simp [exponentPart, (calm c rfl).2.2.1, (calm c rfl).2.2.2]

theorem fraction_part {fraction : Option (List Char)} {rest : List Char}
    (digits : ∀ ds ∈ fraction, Digits ds ∧ ds ≠ []) (stop : ∀ c ∈ rest.head?, Text.isAsciiDigit c = false ∧ c ≠ '.') :
    fractionPart (fractionText fraction ++ rest) = some (fraction, rest) := by
  cases fraction with
  | none => exact no_fraction fun c first => (stop c first).2
  | some ds =>
    obtain ⟨all, some⟩ := digits ds rfl
    rw [fractionText, List.cons_append, fractionPart, take_digits all fun c first => (stop c first).1]
    simp [some]

theorem exponent_part {exponent : Option (Bool × List Char)} {rest : List Char}
    (digits : ∀ p ∈ exponent, Digits p.2 ∧ p.2 ≠ []) (calm : Calm rest) :
    exponentPart (exponentText exponent ++ rest) = some (exponent.map exponentValue, rest) := by
  cases exponent with
  | none => exact no_exponent calm
  | some power =>
    obtain ⟨negative, ds⟩ := power
    obtain ⟨all, some⟩ := digits _ rfl
    cases negative <;>
      simp [exponentText, exponentPart, Binary64.takeSign, take_digits all (calm_stop calm), some, exponentValue]

structure Pointed (whole : List Char) (fraction : Option (List Char)) (exponent : Option (Bool × List Char)) : Prop where
  lead : Lead whole
  places : ∀ ds ∈ fraction, Digits ds ∧ ds ≠ []
  power : ∀ p ∈ exponent, Digits p.2 ∧ p.2 ≠ []
  shown : fraction.isSome ∨ exponent.isSome

def pointedWriting (whole : List Char) (fraction : Option (List Char)) (exponent : Option (Bool × List Char)) :
    List Char :=
  whole ++ (fractionText fraction ++ exponentText exponent)

theorem pointed_draft {whole : List Char} {fraction : Option (List Char)} {exponent : Option (Bool × List Char)}
    (pointed : Pointed whole fraction exponent) {rest : List Char} (calm : Calm rest) (negative : Bool) :
    numberDraft negative (pointedWriting whole fraction exponent ++ rest) =
      some (decimalDraft negative whole (fraction.getD []) ((exponent.map exponentValue).getD 0), rest) := by
  have behind : ∀ c ∈ (exponentText exponent ++ rest).head?, Text.isAsciiDigit c = false ∧ c ≠ '.' := by
    cases exponent with
    | none => exact fun c first => ⟨(calm c first).1, (calm c first).2.1⟩
    | some p => simp [exponentText]; decide
  have point : ∀ c ∈ (fractionText fraction ++ (exponentText exponent ++ rest)).head?, Text.isAsciiDigit c = false := by
    cases fraction with
    | none => exact fun c first => (behind c first).1
    | some ds => simp [fractionText]; decide
  rw [pointedWriting, List.append_assoc, List.append_assoc, numberDraft, whole_part pointed.lead point]
  dsimp only [bind, Option.bind]
  rw [fraction_part pointed.places behind]
  dsimp only
  rw [exponent_part pointed.power calm]
  cases fraction with
  | some ds => rfl
  | none =>
    cases exponent with
    | some p => rfl
    | none => exact absurd pointed.shown (by simp)

theorem pointed_ascii {whole : List Char} {fraction : Option (List Char)} {exponent : Option (Bool × List Char)}
    (pointed : Pointed whole fraction exponent) : ∀ c ∈ pointedWriting whole fraction exponent, c.toNat < 0x80 := by
  have small {ds : List Char} (digits : Digits ds) {c : Char} (member : c ∈ ds) : c.toNat < 0x80 := by
    have code := Text.digit_code (digits c member)
    omega
  intro c member
  rcases List.mem_append.1 member with front | behind
  · exact small pointed.lead.digits front
  rcases List.mem_append.1 behind with back | power
  · cases fraction with
    | none => cases back
    | some ds =>
      rcases List.mem_cons.1 back with rfl | back
      · decide
      · exact small (pointed.places ds rfl).1 back
  · cases exponent with
    | none => cases power
    | some p =>
      obtain ⟨negative, ds⟩ := p
      rcases List.mem_cons.1 power with rfl | power
      · decide
      rcases List.mem_cons.1 power with rfl | power
      · cases negative <;> decide
      · exact small (pointed.power _ rfl).1 power

theorem positional_pointed {digits : Nat} {place : Int} (zero : digits = 0 → place = 0) :
    ∃ whole fraction, Pointed whole (some fraction) none ∧
      Binary64.positional digits place ['.', '0'] = pointedWriting whole (some fraction) none := by
  have ds := nat_digits digits
  have some := Nat.toDigits_ne_nil (n := digits) (b := 10)
  have last : Digits ['0'] := zeros_digits 1
  have plain {whole fraction : List Char} (lead : Lead whole) (all : Digits fraction) (any : fraction ≠ []) :
      Pointed whole (.some fraction) none :=
    ⟨lead, fun _ same => Option.some.inj same ▸ ⟨all, any⟩, by simp, .inl rfl⟩
  unfold Binary64.positional
  dsimp only
  by_cases up : 0 ≤ place
  · rw [if_pos up]
    have lead : Lead (Nat.toDigits 10 digits ++ zeros place.toNat) := by
      by_cases none : digits = 0
      · rw [zero none, none]
        exact lead_nat 0
      · refine lead_of_head (digits_append ds (zeros_digits _)) (by simp [some]) ?_
        rw [head_append _ some]
        exact nat_head none
    exact ⟨_, _, plain lead last (by simp), by simp [pointedWriting, fractionText, exponentText]⟩
  rw [if_neg up]
  have positive : digits ≠ 0 := fun none => up (Int.le_of_eq (zero none).symm)
  have head := nat_head positive
  generalize Nat.toDigits 10 digits = cs at *
  by_cases long : (-place).toNat < cs.length
  · rw [if_pos long]
    have lead : Lead (cs.take (cs.length - (-place).toNat)) := by
      refine lead_of_head (fun c member => ds c (List.mem_of_mem_take member)) ?_ ?_
      · apply List.ne_nil_of_length_pos
        rw [List.length_take]
        omega
      · rw [List.head?_take, if_neg (by omega)]
        exact head
    have back : Digits (cs.drop (cs.length - (-place).toNat)) := fun c member => ds c (List.mem_of_mem_drop member)
    refine ⟨_, _, plain lead back ?_, by simp [pointedWriting, fractionText, exponentText]⟩
    apply List.ne_nil_of_length_pos
    rw [List.length_drop]
    omega
  · rw [if_neg long]
    have back := digits_append (zeros_digits ((-place).toNat - cs.length)) ds
    exact ⟨['0'], _, plain (lead_nat 0) back (by simp [some]), by simp [pointedWriting, fractionText, exponentText]⟩

theorem scientific_pointed {digits : Nat} (positive : digits ≠ 0) (exponent : Int) :
    ∃ whole fraction power, Pointed whole fraction (some power) ∧
      Binary64.scientific digits exponent = pointedWriting whole fraction (some power) := by
  have ds := nat_digits digits
  have some := Nat.toDigits_ne_nil (n := digits) (b := 10)
  have head := nat_head positive
  let power := (decide (exponent < 0), Nat.toDigits 10 exponent.natAbs)
  have powers : ∀ p ∈ Option.some power, Digits p.2 ∧ p.2 ≠ [] := fun _ same =>
    Option.some.inj same ▸ ⟨nat_digits _, Nat.toDigits_ne_nil⟩
  unfold Binary64.scientific
  generalize Nat.toDigits 10 digits = cs at *
  match cs with
  | [] => exact absurd rfl some
  | [d] =>
    refine ⟨[d], none, power, ⟨lead_of_head ds some head, by simp, powers, .inr rfl⟩, ?_⟩
    simp [pointedWriting, fractionText, exponentText, power]
  | d :: e :: more =>
    have front : Lead [d] := lead_of_head (fun c member => ds c (by simp_all)) (by simp) head
    have back : Digits (e :: more) := fun c member => ds c (List.mem_cons_of_mem d member)
    refine ⟨[d], .some (e :: more), power,
      ⟨front, fun _ same => Option.some.inj same ▸ ⟨back, by simp⟩, powers, .inl rfl⟩, ?_⟩
    simp [pointedWriting, fractionText, exponentText, power]

theorem shortest_zero {x : Binary64} (finite : x.isFinite = true) (tie : Binary64.Tie)
    (none : (Binary64.shortest tie x).1 = 0) : (Binary64.shortest tie x).2 = 0 := by
  have reads := Binary64.shortest_reads finite tie
  rw [none, Binary64.nearestDecimal, if_pos rfl] at reads
  rw [Binary64.shortest, if_pos (by rw [Binary64.isZero, ← reads]; rfl)]

theorem pointed_text {x : Binary64} (finite : x.isFinite = true) :
    ∃ whole fraction exponent, Pointed whole fraction exponent ∧
      x.pointedText = x.signText ++ pointedWriting whole fraction exponent := by
  have zero := shortest_zero finite .even
  rw [Binary64.pointedText]
  generalize Binary64.shortest .even x = found at *
  obtain ⟨digits, place⟩ := found
  dsimp only at *
  split
  · obtain ⟨whole, fraction, pointed, same⟩ := positional_pointed zero
    exact ⟨whole, _, _, pointed, by rw [same]⟩
  · rename_i far
    have positive : digits ≠ 0 := by
      rintro rfl
      rw [zero rfl] at far
      exact far (by decide)
    obtain ⟨whole, fraction, power, pointed, same⟩ := scientific_pointed positive _
    exact ⟨whole, _, _, pointed, by rw [same]⟩

theorem scalar_number {whole : List Char} (lead : Lead whole) (negative : Bool) (s : List Char) :
    scalarDraft ((if negative then ['-'] else []) ++ (whole ++ s)) = numberDraft negative (whole ++ s) := by
  obtain ⟨d, ds, rfl⟩ := List.exists_cons_of_ne_nil lead.some
  have digit := lead.digits d (by simp)
  have other {c : Char} {more tail : List Char} (letter : Text.isAsciiDigit c = false) : d :: more ≠ c :: tail :=
    fun same => Text.digit_ne digit letter (List.cons.inj same).1
  cases negative with
  | true => rfl
  | false =>
    rw [if_neg (by decide), List.nil_append, List.cons_append, scalarDraft]
    all_goals exact fun _ => other (by decide)

theorem take_word {ds : List Char} {n : Nat} (within : Nat.ofDigitChars 10 ds n ≤ largestWord) :
    takeWord n ds = (Nat.ofDigitChars 10 ds n, []) := by
  induction ds generalizing n with
  | nil => rw [Nat.ofDigitChars_nil, takeWord]
  | cons d ds ih =>
    rw [Nat.ofDigitChars_cons, Nat.mul_comm] at within ⊢
    have step : ¬ largestWord < n * 10 + digitValue d :=
      Nat.not_lt.2 (Nat.le_trans (Text.of_digits_grows ds _) within)
    rw [takeWord, if_neg step]
    exact ih within

theorem integer_signed (n : Int) :
    integerText n = (if decide (n < 0) = true then ['-'] else []) ++ (Nat.toDigits 10 n.natAbs ++ []) := by
  simp [integerText]

theorem integer_draft {n : Int} (least : -0x8000000000000000 ≤ n) (most : n ≤ largestWord) {rest : List Char}
    (calm : Calm rest) : scalarDraft (integerText n ++ rest) = some (.integer n, rest) := by
  have value : Nat.ofDigitChars 10 (Nat.toDigits 10 n.natAbs) 0 = n.natAbs := Nat.ofDigitChars_ten_toDigits
  have within : Nat.ofDigitChars 10 (Nat.toDigits 10 n.natAbs) 0 ≤ largestWord := by
    rw [value, largestWord]
    rw [largestWord] at most
    omega
  have word := take_word within
  have lead := lead_nat n.natAbs
  rw [value] at word
  rw [integer_signed, List.append_nil, List.append_assoc, scalar_number lead, numberDraft, whole_part lead (calm_stop calm)]
  dsimp only [bind, Option.bind]
  rw [no_fraction fun c first => (calm c first).2.1]
  dsimp only
  rw [no_exponent calm]
  dsimp only
  rw [integerDraft, word]
  by_cases negative : n < 0
  · have some : decide (n.natAbs = 0) = false := decide_eq_false (by omega)
    have small : decide (0x8000000000000000 < n.natAbs) = false := decide_eq_false (by omega)
    have back : -(n.natAbs : Int) = n := by omega
    simp only [negative, decide_true, List.isEmpty_nil, Bool.not_true, some, small, Bool.or_self, back]
    rfl
  · have back : (n.natAbs : Int) = n := by omega
    simp only [negative, decide_false, List.isEmpty_nil, Bool.not_true, Bool.not_false, back]
    rfl

end Json

end Deckwright
