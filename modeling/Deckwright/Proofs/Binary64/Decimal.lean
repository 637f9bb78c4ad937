import Deckwright.Binary64.Decimal
import Deckwright.Proofs.Binary64.Nearest
import Deckwright.Proofs.Text.Natural
set_option autoImplicit false

namespace Deckwright.Binary64

open Text (Digits nat_digits digits_append digit_code digit_ne)

theorem log_ten {e : Nat} (some : e ≠ 0) : e.log2 + 3 ≤ (10 * e).log2 ∧ (10 * e).log2 ≤ e.log2 + 4 := by
  have least := Nat.log2_self_le some
  have most := Nat.lt_log2_self (n := e)
  have some10 : 10 * e ≠ 0 := by omega
  constructor
  · rw [Nat.le_log2 some10, Nat.pow_add]
    omega
  · have below : (10 * e).log2 < e.log2 + 5 := by
      rw [Nat.log2_lt some10, show e.log2 + 5 = e.log2 + 1 + 4 from rfl, Nat.pow_add]
      omega
    omega

theorem ten_too_small {e k : Nat} (low : 403 + e.log2 ≤ k) :
    nearest (10 * e * oneGrains) (Nat.pow 10 k) = 0 := by
  apply nearest_small
  have most := Nat.lt_log2_self (n := e)
  have powers : 2 ^ e.log2 ≤ 10 ^ e.log2 := Nat.pow_le_pow_left (by decide) _
  have grains : 40 * oneGrains ≤ 10 ^ 403 := by decide +kernel
  have positive : 0 < 20 * oneGrains := by decide +kernel
  calc 2 * (10 * e * oneGrains) = e * (20 * oneGrains) := by
        rw [Nat.mul_comm 10 e, Nat.mul_assoc, Nat.mul_left_comm, ← Nat.mul_assoc 2]
    _ < 2 ^ (e.log2 + 1) * (20 * oneGrains) := Nat.mul_lt_mul_of_pos_right most positive
    _ = 2 ^ e.log2 * (40 * oneGrains) := by rw [Nat.pow_succ, Nat.mul_assoc, ← Nat.mul_assoc 2]
    _ ≤ 10 ^ e.log2 * 10 ^ 403 := Nat.mul_le_mul powers grains
    _ = 10 ^ (403 + e.log2) := by rw [Nat.mul_comm, Nat.pow_add]
    _ ≤ Nat.pow 10 k := Nat.pow_le_pow_right (by decide) low

theorem ten_too_large {e k : Nat} (some : e ≠ 0) (high : 400 ≤ k) :
    nearest (10 * e * Nat.pow 10 k * oneGrains) 1 = infinityBits := by
  apply nearest_large
  have ten : 10 ≤ 10 * e := by omega
  have powers := Nat.pow_le_pow_right (show 0 < 10 by decide) high
  have grains : Nat.pow 2 2098 ≤ 10 * Nat.pow 10 400 * oneGrains := by decide +kernel
  change Nat.pow 10 400 ≤ Nat.pow 10 k at powers
  generalize Nat.pow 10 400 = bound at powers grains
  exact Nat.le_trans grains (Nat.mul_le_mul_right _ (Nat.mul_le_mul ten powers))

theorem nearest_decimal_ten (e : Nat) (p : Int) : nearestDecimal (10 * e) p = nearestDecimal e (p + 1) := by
  by_cases none : e = 0
  · simp [none, nearestDecimal]
  have some10 : 10 * e ≠ 0 := by omega
  obtain ⟨logLeast, logMost⟩ := log_ten none
  simp only [nearestDecimal, if_neg none, if_neg some10]
  by_cases high : p > 400
  · rw [if_pos high, if_pos (by omega)]
  rw [if_neg high]
  by_cases top : p = 400
  · rw [if_neg (by omega), if_pos (by omega), if_pos (by omega)]
    exact ten_too_large none (by omega)
  rw [if_neg (show ¬ p + 1 > 400 by omega)]
  by_cases low : p + 1 < -(400 + (e.log2 : Int) + 1)
  · rw [if_pos low]
    split
    · rfl
    · rw [if_neg (by omega)]
      exact ten_too_small (by omega)
  · rw [if_neg low, if_neg (by omega)]
    rcases Int.lt_trichotomy p (-1) with below | rfl | above
    · rw [if_neg (by omega), if_neg (by omega), show (-p).toNat = (-(p + 1)).toNat + 1 by omega, Nat.mul_assoc]
      generalize oneGrains = g
      simp only [Nat.pow_eq, Nat.pow_succ']
      exact nearest_scaled (by decide) _ _
    · generalize oneGrains = g
      have scaled := nearest_scaled (k := 10) (by decide) (e * g) 1
      simpa [Nat.mul_assoc] using scaled
    · rw [if_pos (by omega), if_pos (by omega), show (p + 1).toNat = p.toNat + 1 by omega]
      generalize oneGrains = g
      simp only [Nat.pow_eq, Nat.pow_succ']
      rw [Nat.mul_comm 10 e, Nat.mul_assoc e]

theorem decimal_of_reads {tie : Tie} {target digits : Nat} {place exponent : Int}
    (found : decimalOf? tie target place = some (digits, exponent)) : nearestDecimal digits exponent = target := by
  unfold decimalOf? at found
  extract_lets g num den low rest upFirst first second at found
  split at found
  · rename_i reads
    obtain ⟨rfl, rfl⟩ := Prod.mk.inj (Option.some.inj found)
    exact reads
  · split at found
    · rename_i reads
      obtain ⟨rfl, rfl⟩ := Prod.mk.inj (Option.some.inj found)
      exact reads
    · cases found

-- With a factor of five for every factor of two in a grain the decimal is exact.
theorem nearest_expansion {g n : Nat} (some : g ≠ 0) (down : 0 < n) (grains : oneGrains = Nat.pow 2 n) :
    nearestDecimal (g * Nat.pow 5 n) (-(n : Int)) = nearest g 1 := by
  have powers : 2 ^ n ≤ Nat.pow 5 n := Nat.pow_le_pow_left (by decide) n
  have least : 2 ^ n ≤ g * Nat.pow 5 n := Nat.le_trans powers (Nat.le_mul_of_pos_left _ (Nat.pos_of_ne_zero some))
  have product : g * Nat.pow 5 n ≠ 0 := Nat.ne_of_gt (Nat.lt_of_lt_of_le (Nat.two_pow_pos n) least)
  have log := (Nat.le_log2 product).2 least
  have tens : Nat.pow 5 n * Nat.pow 2 n = Nat.pow 10 n := (Nat.mul_pow 5 2 n).symm
  have positive : 0 < Nat.pow 10 n := Nat.pow_pos (by decide)
  have scaled := nearest_scaled positive g 1
  unfold nearestDecimal
  rw [if_neg product, if_neg (by omega), if_neg (by omega), if_neg (by omega), Int.neg_neg, Int.toNat_natCast,
    grains, Nat.mul_assoc, tens, Nat.mul_comm]
  rw [Nat.mul_one] at scaled
  exact scaled

theorem expansion_reads {target : Nat} (finite : target < infinityBits) (positive : target ≠ 0) :
    nearestDecimal (grainsOf target * Nat.pow 5 1074) (-1074) = target := by
  have some : grainsOf target ≠ 0 := by
    intro zero
    have same := nearest_grains finite
    rw [zero] at same
    exact positive (same.symm.trans (by decide))
  have grains : oneGrains = Nat.pow 2 1074 := by rw [oneGrains]
  exact (nearest_expansion (n := 1074) some (by decide) grains).trans (nearest_grains finite)

theorem shortest_from_reads {target : Nat} (finite : target < infinityBits) (positive : target ≠ 0) (tie : Tie)
    (place : Int) (fuel : Nat) :
    nearestDecimal (shortestFrom tie target place fuel).1 (shortestFrom tie target place fuel).2 = target := by
  induction fuel generalizing place with
  | zero => exact expansion_reads finite positive
  | succ fuel ih =>
    unfold shortestFrom
    cases found : decimalOf? tie target place with
    | none => exact ih (place - 1)
    | some pair => exact decimal_of_reads found

theorem drop_zeros_same (digits : Nat) (place : Int) (fuel : Nat) :
    nearestDecimal (dropZeros digits place fuel).1 (dropZeros digits place fuel).2 = nearestDecimal digits place := by
  induction fuel generalizing digits place with
  | zero => rfl
  | succ fuel ih =>
    unfold dropZeros
    split
    · rename_i round
      have ten : 10 * (digits / 10) = digits := by omega
      rw [ih, ← nearest_decimal_ten, ten]
    · rfl

theorem shortest_reads {x : Binary64} (finite : x.isFinite = true) (tie : Tie) :
    nearestDecimal (shortest tie x).1 (shortest tie x).2 = x.magnitude := by
  simp only [isFinite, decide_eq_true_eq] at finite
  unfold shortest
  by_cases zero : x.isZero
  · rw [if_pos zero]
    simp only [isZero, beq_iff_eq] at zero
    simp [nearestDecimal, zero]
  · rw [if_neg zero]
    simp only [isZero, beq_iff_eq] at zero
    rw [drop_zeros_same]
    exact shortest_from_reads finite zero tie _ _

theorem of_magnitude_self (x : Binary64) : ofMagnitude x.negative x.magnitude = x := by
  obtain ⟨bits⟩ := x
  have size := bits.toNat_lt
  have sign : signBit = 2 ^ 63 := by decide
  simp only [ofMagnitude, negative, magnitude, mk.injEq, sign]
  apply UInt64.toNat_inj.mp
  simp only [UInt64.toNat_ofNat', decide_eq_true_eq]
  split <;> omega

theorem of_digits_chars (ds : List Char) : ofDigits ds = Nat.ofDigitChars 10 ds 0 := by
  simp only [ofDigits, Nat.ofDigitChars, digitValue, Nat.mul_comm]

theorem of_digits_nat (n : Nat) : ofDigits (Nat.toDigits 10 n) = n := by
  rw [of_digits_chars, Nat.ofDigitChars_ten_toDigits]

theorem zeros_digits (n : Nat) : Digits (zeros n) := by
  intro c member
  rw [List.eq_of_mem_replicate member]
  decide

theorem take_digits {ds rest : List Char} (digits : Digits ds)
    (stop : ∀ c ∈ rest.head?, Text.isAsciiDigit c = false) : takeDigits (ds ++ rest) = (ds, rest) := by
  unfold takeDigits
  rw [List.takeWhile_append_of_pos digits, List.dropWhile_append_of_pos digits]
  cases rest with
  | nil => simp
  | cons c tail => simp [stop c rfl]

theorem take_all_digits {ds : List Char} (digits : Digits ds) : takeDigits ds = (ds, []) := by
  have none : ∀ c ∈ ([] : List Char).head?, Text.isAsciiDigit c = false := by simp
  simpa using take_digits digits none

theorem digit_lower {c : Char} (digit : Text.isAsciiDigit c = true) : c.toLower = c := by
  simp only [Text.isAsciiDigit, Bool.and_eq_true, decide_eq_true_eq, Char.le_def] at digit
  unfold Char.toLower
  rw [dif_neg]
  rintro ⟨least, _⟩
  have below := UInt32.le_trans least digit.2
  revert below
  decide

theorem read_digits (whole fraction point : List Char) (negative : Bool) (front : Digits whole) (some : whole ≠ [])
    (back : Digits fraction) (shape : point = [] ∧ fraction = [] ∨ point = '.' :: fraction) :
    readUnsigned negative (whole ++ point) =
      .some (ofDecimal negative (ofDigits (whole ++ fraction)) (-(fraction.length : Int))) := by
  have stop : ∀ c ∈ point.head?, Text.isAsciiDigit c = false := by
    rcases shape with ⟨rfl, _⟩ | rfl
    · simp
    · intro c first
      obtain rfl := Option.some.inj first
      decide
  have fractionTaken : takeFraction point = (fraction, []) := by
    rcases shape with ⟨rfl, rfl⟩ | rfl
    · rfl
    · exact take_all_digits back
  obtain ⟨d, ds, rfl⟩ := List.exists_cons_of_ne_nil some
  have digit := front d (by simp)
  have named (e : Char) (letter : Text.isAsciiDigit e = false) : d.toLower ≠ e := by
    rw [digit_lower digit]
    exact digit_ne digit letter
  unfold readUnsigned
  rw [take_digits front stop]
  simp [named 'i' (by decide), named 'n' (by decide), fractionTaken, readExponent]

theorem read_digits_alone {ds : List Char} (some : ds ≠ []) (all : Digits ds) :
    read ds = .ok (ofDecimal false (ofDigits ds) 0) := by
  have unsigned := read_digits ds [] [] false all some (by simp [Digits]) (.inl ⟨rfl, rfl⟩)
  rw [List.append_nil] at unsigned
  obtain ⟨d, rest, rfl⟩ := List.exists_cons_of_ne_nil some
  have plus : d ≠ '+' := digit_ne (all d (by simp)) (by decide)
  have minus : d ≠ '-' := digit_ne (all d (by simp)) (by decide)
  have sign : takeSign (d :: rest) = (false, d :: rest) := by simp [takeSign, plus, minus]
  rw [read, if_neg (by simp), sign]
  dsimp only
  rw [unsigned]
  rfl

theorem decimal_whole (n : Nat) : ofDecimal false n 0 = ofNat n := by
  rw [ofDecimal, nearestDecimal, ofNat]
  by_cases none : n = 0
  · rw [if_pos none, none, Nat.zero_mul]
    rfl
  · rw [if_neg none, if_neg (by decide), if_neg (by omega), if_pos (by decide)]
    simp

theorem of_digits_zeros (ds : List Char) (n : Nat) : ofDigits (ds ++ zeros n) = ofDigits ds * Nat.pow 10 n := by
  rw [of_digits_chars, of_digits_chars, Nat.ofDigitChars_append, zeros, Nat.ofDigitChars_replicate_zero, Nat.mul_comm]
  rfl

theorem of_digits_zeros_before (ds : List Char) (n : Nat) : ofDigits (zeros n ++ ds) = ofDigits ds := by
  rw [of_digits_chars, of_digits_chars, Nat.ofDigitChars_append, zeros, Nat.ofDigitChars_replicate_zero, Nat.mul_zero]

theorem nearest_decimal_whole (digits k : Nat) :
    nearestDecimal (digits * Nat.pow 10 k) 0 = nearestDecimal digits k := by
  induction k generalizing digits with
  | zero => simp
  | succ k ih =>
    have ten : digits * Nat.pow 10 (k + 1) = 10 * digits * Nat.pow 10 k := by
      rw [show Nat.pow 10 (k + 1) = 10 * Nat.pow 10 k from Nat.pow_succ', ← Nat.mul_assoc, Nat.mul_comm digits]
    rw [ten, ih, nearest_decimal_ten]
    rfl

theorem read_positional (negative : Bool) (digits : Nat) (place : Int) :
    readUnsigned negative (positional digits place []) = some (ofDecimal negative digits place) := by
  have ds := nat_digits digits
  have some := Nat.toDigits_ne_nil (n := digits) (b := 10)
  have value := of_digits_nat digits
  unfold positional
  dsimp only
  generalize Nat.toDigits 10 digits = cs at *
  split
  · rename_i up
    have read := read_digits (cs ++ zeros place.toNat) [] [] negative (digits_append ds (zeros_digits _))
      (by simp [some]) (by simp [Digits]) (.inl ⟨rfl, rfl⟩)
    rw [read, List.append_nil, of_digits_zeros, value]
    simp only [ofDecimal, List.length_nil]
    rw [show (-((0 : Nat) : Int)) = 0 from rfl, nearest_decimal_whole, Int.toNat_of_nonneg up]
  · rename_i down
    split
    · rename_i long
      have front : Digits (cs.take (cs.length - (-place).toNat)) := fun c member => ds c (List.mem_of_mem_take member)
      have back : Digits (cs.drop (cs.length - (-place).toNat)) := fun c member => ds c (List.mem_of_mem_drop member)
      have some : cs.take (cs.length - (-place).toNat) ≠ [] := by
        intro none
        have length := congrArg List.length none
        simp at length
        omega
      have read := read_digits _ _ _ negative front some back (.inr rfl)
      rw [read, List.take_append_drop, value, List.length_drop]
      congr 2
      omega
    · rename_i short
      have back := digits_append (zeros_digits ((-place).toNat - cs.length)) ds
      have read := read_digits ['0'] _ _ negative (by simp [Digits]; decide) (by simp) back (.inr rfl)
      have zero : ofDigits (['0'] ++ (zeros ((-place).toNat - cs.length) ++ cs)) = digits := by
        rw [← List.append_assoc, show ['0'] ++ zeros ((-place).toNat - cs.length) =
          zeros ((-place).toNat - cs.length + 1) from rfl, of_digits_zeros_before, value]
      have length : (zeros ((-place).toNat - cs.length) ++ cs).length = (-place).toNat := by
        simp [zeros]
        omega
      rw [zero, length] at read
      rw [show -((-place).toNat : Int) = place by omega] at read
      simpa using read

theorem positional_head (digits : Nat) (place : Int) :
    ∃ c rest, positional digits place [] = c :: rest ∧ Text.isAsciiDigit c = true := by
  obtain ⟨d, ds, cs⟩ := List.exists_cons_of_ne_nil (Nat.toDigits_ne_nil (n := digits) (b := 10))
  have digit := nat_digits digits d (by simp [cs])
  unfold positional
  rw [cs]
  dsimp only
  split
  · exact ⟨d, _, rfl, digit⟩
  · split
    · rename_i long
      obtain ⟨k, more⟩ : ∃ k, (d :: ds).length - (-place).toNat = k + 1 := ⟨(d :: ds).length - (-place).toNat - 1, by omega⟩
      rw [more]
      exact ⟨d, _, rfl, digit⟩
    · exact ⟨'0', _, rfl, by decide⟩

def IsSign (c : Char) : Prop := Text.isAsciiDigit c = true ∨ c = '.' ∨ c = '-'

theorem positional_signs (digits : Nat) (place : Int) : ∀ c ∈ positional digits place [], IsSign c := by
  have ds := nat_digits digits
  have blanks (n : Nat) := zeros_digits n
  unfold positional
  dsimp only
  generalize Nat.toDigits 10 digits = cs at *
  intro c member
  split at member
  · rw [List.append_nil] at member
    exact .inl (digits_append ds (blanks _) c member)
  · split at member
    · rcases List.mem_append.1 member with front | back
      · exact .inl (ds c (List.mem_of_mem_take front))
      · rcases List.mem_cons.1 back with point | back
        · exact .inr (.inl point)
        · exact .inl (ds c (List.mem_of_mem_drop back))
    · rcases List.mem_cons.1 member with rfl | member
      · exact .inl (by decide)
      · rcases List.mem_cons.1 member with point | member
        · exact .inr (.inl point)
        · exact .inl (digits_append (blanks _) ds c member)

theorem text_shape {x : Binary64} (finite : x.isFinite = true) :
    ∃ digits place, x.text = x.signText ++ positional digits place [] ∧ ofDecimal x.negative digits place = x := by
  refine ⟨(shortest .up x).1, (shortest .up x).2, ?_, ?_⟩
  · have number : x.isNaN = false := by
      simp only [isFinite, decide_eq_true_eq] at finite
      simp [isNaN]
      omega
    simp [text, number, finite]
  · rw [ofDecimal, shortest_reads finite, of_magnitude_self]

theorem text_signs {x : Binary64} (finite : x.isFinite = true) : ∀ c ∈ x.text, IsSign c := by
  obtain ⟨digits, place, text, _⟩ := text_shape finite
  intro c member
  rw [text] at member
  rcases List.mem_append.1 member with front | back
  · unfold signText at front
    split at front
    · exact .inr (.inr (List.mem_singleton.1 front))
    · exact absurd front List.not_mem_nil
  · exact positional_signs digits place c back

theorem read_text {x : Binary64} (finite : x.isFinite = true) : read x.text = .ok x := by
  obtain ⟨digits, place, text, same⟩ := text_shape finite
  have unsigned := read_positional x.negative digits place
  obtain ⟨c, rest, shape, digit⟩ := positional_head digits place
  have signed : takeSign x.text = (x.negative, positional digits place []) := by
    rw [text, signText]
    split
    · rename_i negative
      rw [negative]
      rfl
    · rename_i positive
      have minus : c ≠ '-' := digit_ne digit (by decide)
      have plus : c ≠ '+' := digit_ne digit (by decide)
      rw [List.nil_append, shape, Bool.eq_false_iff.mpr positive]
      simp [takeSign, minus, plus]
  have some : x.text.isEmpty = false := by
    rw [text, shape]
    simp
  rw [read, if_neg (by simp [some]), signed]
  dsimp only
  rw [unsigned, same]

end Deckwright.Binary64
