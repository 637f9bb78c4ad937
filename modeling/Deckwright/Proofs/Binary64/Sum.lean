import Deckwright.Proofs.Binary64.Decimal
import Mathlib.Algebra.Ring.Nat
set_option autoImplicit false

/- Sums. Below 2^53 every whole number is exact and so is the sum of whole numbers; from there on
   a sum is rounded, but since rounding keeps the order it never falls below 2^53 again. A sum
   that is not finite stays so whatever is added. -/
namespace Deckwright.Binary64

structure Counts (x : Binary64) (n : Int) : Prop where
  finite : x.isFinite = true
  grains : x.grains = n * oneGrains

section Order

theorem divide_most (num den : Nat) : divideToEven num den ≤ num / den + 1 := by
  simp only [divideToEven]
  split
  · omega
  · split <;> omega

theorem divide_mono {num more : Nat} (den : Nat) (le : num ≤ more) : divideToEven num den ≤ divideToEven more den := by
  have quotients := Nat.div_le_div_right (c := den) le
  rcases Nat.eq_or_lt_of_le quotients with same | below
  · have first := Nat.div_add_mod num den
    have second := Nat.div_add_mod more den
    rw [← same] at second
    have rests : num % den ≤ more % den := by omega
    simp only [divideToEven, ← same]
    grind
  · have most := divide_most num den
    have least := divide_least more den
    omega

theorem log_mono {num more : Nat} (le : num ≤ more) : num.log2 ≤ more.log2 := by
  by_cases none : num = 0
  · simp [none]
  · rw [Nat.le_log2 (by omega)]
    exact Nat.le_trans (Nat.log2_self_le none) le

theorem quotient_short (num : Nat) : num / 2 ^ (num.log2 - 52) < 2 * exponentUnit := by
  rw [Nat.div_lt_iff_lt_mul (Nat.two_pow_pos _), show 2 * exponentUnit = 2 ^ 53 by decide, ← Nat.pow_add]
  exact Nat.lt_of_lt_of_le Nat.lt_log2_self (Nat.pow_le_pow_right (by decide) (by omega))

theorem nearest_mono {num more : Nat} (le : num ≤ more) : nearest num 1 ≤ nearest more 1 := by
  have logs := log_mono le
  simp only [nearest, Nat.div_one, Nat.one_mul, Nat.pow_eq]
  refine Nat.le_min.2 ⟨Nat.le_trans (Nat.min_le_left _ _) ?_, Nat.min_le_right _ _⟩
  rcases Nat.eq_or_lt_of_le (Nat.sub_le_sub_right logs 52) with same | below
  · rw [← same]
    exact Nat.add_le_add_left (divide_mono _ le) _
  · have most := divide_most num (2 ^ (num.log2 - 52))
    have short := quotient_short num
    have long : exponentUnit ≤ more / 2 ^ (more.log2 - 52) := quotient_long (by omega)
    have least := divide_least more (2 ^ (more.log2 - 52))
    have steps := Nat.mul_le_mul_right exponentUnit (Nat.succ_le_of_lt below)
    rw [Nat.succ_mul] at steps
    omega

theorem grains_mono {m k : Nat} (le : m ≤ k) (finite : k < infinityBits) : grainsOf m ≤ grainsOf k := by
  refine Nat.le_of_not_lt fun above => ?_
  have rounded := nearest_mono (Nat.le_of_lt above)
  rw [nearest_grains finite, nearest_grains (Nat.lt_of_le_of_lt le finite)] at rounded
  rw [Nat.le_antisymm le rounded] at above
  exact Nat.lt_irrefl _ above

end Order

section Magnitude

theorem infinity_below_sign : infinityBits < signBit := by decide

variable {m : Nat} (within : m ≤ infinityBits) (negative : Bool)

include within

theorem of_magnitude_nat : (ofMagnitude negative m).bits.toNat = m + if negative then signBit else 0 := by
  have size : infinityBits + signBit < 2 ^ 64 := by decide
  rw [ofMagnitude, UInt64.toNat_ofNat']
  apply Nat.mod_eq_of_lt
  split <;> omega

theorem magnitude_of : (ofMagnitude negative m).magnitude = m := by
  have below := infinity_below_sign
  rw [magnitude, of_magnitude_nat within]
  split
  · rw [Nat.add_mod_right, Nat.mod_eq_of_lt (by omega)]
  · rw [Nat.add_zero, Nat.mod_eq_of_lt (by omega)]

theorem negative_of : (ofMagnitude negative m).negative = negative := by
  have below := infinity_below_sign
  rw [Binary64.negative, of_magnitude_nat within]
  cases negative <;> simp
  omega

end Magnitude

theorem grains_positive : 0 < oneGrains := by decide +kernel

theorem nearest_within (num den : Nat) : nearest num den ≤ infinityBits := Nat.min_le_right _ _

theorem whole_magnitude {n : Nat} (small : n < 2 ^ 53) : ∃ m < infinityBits, grainsOf m = n * oneGrains := by
  by_cases none : n = 0
  · exact ⟨0, by decide, by simp [none, grainsOf, exponentUnit]⟩
  have log : n.log2 ≤ 52 := by
    have below := (Nat.log2_lt none (k := 53)).2 small
    omega
  have unit : exponentUnit = 2 ^ 52 := by decide
  have least : exponentUnit ≤ n * 2 ^ (52 - n.log2) := by
    have power : 2 ^ n.log2 * 2 ^ (52 - n.log2) = exponentUnit := by
      rw [← Nat.pow_add, unit, Nat.add_sub_cancel' log]
    rw [← power]
    exact Nat.mul_le_mul_right _ (Nat.log2_self_le none)
  have most : n * 2 ^ (52 - n.log2) < 2 * exponentUnit := by
    have power : 2 ^ (n.log2 + 1) * 2 ^ (52 - n.log2) = 2 * exponentUnit := by
      rw [← Nat.pow_add, unit, show n.log2 + 1 + (52 - n.log2) = 52 + 1 by omega, Nat.pow_succ, Nat.mul_comm]
    rw [← power]
    exact Nat.mul_lt_mul_of_pos_right Nat.lt_log2_self (Nat.two_pow_pos _)
  obtain ⟨low, split⟩ := Nat.exists_eq_add_of_le least
  have fits : low < exponentUnit := by omega
  have positive : 0 < exponentUnit := by decide
  have top : infinityBits = 2047 * exponentUnit := by decide
  have grains {k : Nat} (same : 1074 = k) : oneGrains = Nat.pow 2 k := by rw [oneGrains, same]
  refine ⟨low + exponentUnit * (1023 + n.log2), ?_, ?_⟩
  · have steps := Nat.mul_le_mul_left exponentUnit (show 1023 + n.log2 ≤ 1075 by omega)
    omega
  · have high : ¬ low + exponentUnit * (1023 + n.log2) < exponentUnit := by
      have steps := Nat.mul_le_mul_left exponentUnit (show 1 ≤ 1023 + n.log2 by omega)
      omega
    rw [grainsOf, if_neg high, Nat.add_mul_mod_self_left, Nat.mod_eq_of_lt fits, ← split,
      Nat.add_mul_div_left _ _ positive, Nat.div_eq_of_lt fits, Nat.zero_add, Nat.pow_eq, Nat.mul_assoc, ← Nat.pow_add,
      grains (k := 52 - n.log2 + (1023 + n.log2 - 1)) (by omega), Nat.pow_eq]

theorem nearest_whole {n : Nat} (small : n < 2 ^ 53) :
    nearest (n * oneGrains) 1 < infinityBits ∧ grainsOf (nearest (n * oneGrains) 1) = n * oneGrains := by
  obtain ⟨m, finite, grains⟩ := whole_magnitude small
  rw [← grains, nearest_grains finite]
  exact ⟨finite, rfl⟩

theorem limit_magnitude : nearest (2 ^ 53 * oneGrains) 1 = 1076 * exponentUnit := by decide +kernel

theorem limit_grains : grainsOf (1076 * exponentUnit) = 2 ^ 53 * oneGrains := by decide +kernel

theorem infinity_grains : 2 ^ 53 * oneGrains ≤ grainsOf infinityBits := by decide +kernel

theorem nearest_large_whole {g : Nat} (large : 2 ^ 53 * oneGrains ≤ g) : 2 ^ 53 * oneGrains ≤ grainsOf (nearest g 1) := by
  have least := nearest_mono large
  rw [limit_magnitude] at least
  rcases Nat.eq_or_lt_of_le (nearest_within g 1) with infinite | finite
  · rw [infinite]
    exact infinity_grains
  · rw [← limit_grains]
    exact grains_mono least finite

structure Amount (x : Binary64) : Prop where
  positive : x.negative = false
  within : x.magnitude ≤ infinityBits

theorem Amount.number {x : Binary64} (amount : Amount x) : x.isNaN = false := decide_eq_false (Nat.not_lt.2 amount.within)

/-- What a sum of whole numbers that is rounded on the way still tells of the exact sum. -/
structure Tracks (x : Binary64) (n : Nat) : Prop extends Amount x where
  exact : n < 2 ^ 53 → x.magnitude < infinityBits ∧ grainsOf x.magnitude = n * oneGrains
  large : 2 ^ 53 ≤ n → 2 ^ 53 * oneGrains ≤ grainsOf x.magnitude

namespace Tracks

variable {x y : Binary64} {n k : Nat}

theorem of_nearest {g : Nat} (exact : n < 2 ^ 53 → g = n * oneGrains) (large : 2 ^ 53 ≤ n → 2 ^ 53 * oneGrains ≤ g) :
    Tracks (ofMagnitude false (nearest g 1)) n := by
  have within := nearest_within g 1
  refine ⟨⟨negative_of within false, by rwa [magnitude_of within]⟩, fun small => ?_, fun many => ?_⟩
  · rw [magnitude_of within, exact small]
    exact nearest_whole small
  · rw [magnitude_of within]
    exact nearest_large_whole (large many)

theorem of_whole (n : Nat) : Tracks (ofMagnitude false (nearest (n * oneGrains) 1)) n :=
  of_nearest (fun _ => rfl) fun large => Nat.mul_le_mul_right _ large

theorem zero : Tracks Binary64.zero 0 :=
  ⟨⟨by decide, by decide⟩, fun _ => ⟨by decide, (Nat.zero_mul _).symm⟩, fun large => absurd large (by decide)⟩

theorem grains (tracks : Tracks x n) : x.grains = (grainsOf x.magnitude : Int) := by
  rw [Binary64.grains, tracks.positive]
  rfl

theorem infinite (tracks : Tracks x n) (far : x.isFinite = false) : 2 ^ 53 ≤ n := by
  refine Nat.le_of_not_lt fun small => ?_
  have finite := (tracks.exact small).1
  simp only [isFinite, decide_eq_false_iff_not] at far
  exact far finite

theorem least (left : Tracks x n) (right : Tracks y k) (far : 2 ^ 53 ≤ n + k) :
    2 ^ 53 * oneGrains ≤ grainsOf x.magnitude + grainsOf y.magnitude := by
  by_cases first : 2 ^ 53 ≤ n
  · exact Nat.le_trans (left.large first) (Nat.le_add_right _ _)
  · by_cases second : 2 ^ 53 ≤ k
    · exact Nat.le_trans (right.large second) (Nat.le_add_left _ _)
    · rw [(left.exact (Nat.lt_of_not_le first)).2, (right.exact (Nat.lt_of_not_le second)).2, ← Nat.add_mul]
      exact Nat.mul_le_mul_right _ far

theorem add (left : Tracks x n) (right : Tracks y k) : Tracks (x.add y) (n + k) := by
  have beyond {z : Binary64} {c : Nat} (tracks : Tracks z c) (le : c ≤ n + k) (far : z.isFinite = false) :
      Tracks z (n + k) := by
    have large := tracks.infinite far
    exact ⟨tracks.toAmount, fun small => by omega, fun _ => tracks.large large⟩
  rw [Binary64.add, left.number, right.number, left.positive, right.positive]
  simp only [Bool.false_eq_true, if_false, bne_self_eq_false, Bool.and_false, Bool.and_self]
  cases first : x.isFinite with
  | false => simpa using beyond left (Nat.le_add_right n k) first
  | true =>
    cases second : y.isFinite with
    | false => simpa using beyond right (Nat.le_add_left k n) second
    | true =>
      have sum : x.grains + y.grains = ((grainsOf x.magnitude + grainsOf y.magnitude : Nat) : Int) := by
        rw [left.grains, right.grains, Int.natCast_add]
      have rounded : Tracks (ofMagnitude false (nearest (grainsOf x.magnitude + grainsOf y.magnitude) 1)) (n + k) := by
        refine of_nearest (fun small => ?_) (left.least right)
        rw [(left.exact (by omega)).2, (right.exact (by omega)).2, Nat.add_mul]
      simp only [sum, Bool.not_true, Bool.false_eq_true, if_false, Int.natAbs_natCast]
      by_cases none : grainsOf x.magnitude + grainsOf y.magnitude = 0
      · rw [none] at rounded ⊢
        exact rounded
      · rw [if_neg (by omega), decide_eq_false (by omega)]
        exact rounded

end Tracks

section Counts

variable {x : Binary64} {n : Nat}

theorem neg_magnitude (within : x.magnitude ≤ infinityBits) : x.neg.magnitude = x.magnitude := magnitude_of within _

theorem neg_grains (within : x.magnitude ≤ infinityBits) : x.neg.grains = -x.grains := by
  rw [Binary64.grains, Binary64.grains, neg_magnitude within, neg, negative_of within]
  cases x.negative <;> simp

theorem neg_finite (within : x.magnitude ≤ infinityBits) : x.neg.isFinite = x.isFinite := by
  rw [isFinite, isFinite, neg_magnitude within]

theorem Counts.neg {c : Int} (within : x.magnitude ≤ infinityBits) (counts : Counts x c) : Counts x.neg (-c) :=
  ⟨by rw [neg_finite within, counts.finite], by rw [neg_grains within, counts.grains, Int.neg_mul]⟩

theorem Tracks.counts (tracks : Tracks x n) (small : n < 2 ^ 53) : Counts x n := by
  obtain ⟨finite, grains⟩ := tracks.exact small
  exact ⟨decide_eq_true finite, by rw [tracks.grains, grains, Int.natCast_mul]⟩

theorem Tracks.small {c : Int} (tracks : Tracks x n) (grains : x.grains.natAbs = (c * oneGrains).natAbs)
    (less : c.natAbs < 2 ^ 53) : n < 2 ^ 53 := by
  refine Nat.lt_of_not_le fun large => ?_
  have least := tracks.large large
  rw [tracks.grains, Int.natAbs_natCast, Int.natAbs_mul, Int.natAbs_natCast] at grains
  rw [grains] at least
  exact absurd (Nat.le_of_mul_le_mul_right least grains_positive) (Nat.not_le.2 less)

theorem Counts.same {c d : Int} (first : Counts x c) (second : Counts x d) : c = d := by
  have positive : (oneGrains : Int) ≠ 0 := Int.natCast_ne_zero.2 (Nat.ne_of_gt grains_positive)
  exact Int.eq_of_mul_eq_mul_right positive (first.grains.symm.trans second.grains)

end Counts

section Endless

theorem nan_endless {x : Binary64} (nan : x.isNaN = true) : x.isFinite = false := by
  simp only [isNaN, isFinite, decide_eq_true_eq, decide_eq_false_iff_not] at *
  omega

theorem add_endless {x y : Binary64} (endless : x.isFinite = false ∨ y.isFinite = false) : (x.add y).isFinite = false := by
  rw [add]
  split
  case isTrue nan => exact nan_endless nan
  case isFalse =>
    split
    case isTrue nan => exact nan_endless nan
    case isFalse =>
      cases left : x.isFinite with
      | false =>
        rw [if_pos (by decide)]
        split
        · decide
        · exact left
      | true =>
        have right : y.isFinite = false := endless.resolve_left (by simp [left])
        rw [if_neg (by decide), right, if_pos (by decide), right]

theorem fold_endless {xs : List Binary64} {total : Binary64}
    (endless : total.isFinite = false ∨ ∃ x ∈ xs, x.isFinite = false) : (xs.foldl add total).isFinite = false := by
  induction xs generalizing total with
  | nil => simpa using endless
  | cons x xs ih =>
    refine ih ?_
    rcases endless with here | ⟨y, member, far⟩
    · exact .inl (add_endless (.inl here))
    · rcases List.mem_cons.1 member with rfl | later
      · exact .inl (add_endless (.inr far))
      · exact .inr ⟨y, later, far⟩

theorem sum_endless {xs : List Binary64} {x : Binary64} (member : x ∈ xs) (endless : x.isFinite = false) :
    (sum xs).isFinite = false := fold_endless (.inr ⟨x, member, endless⟩)

-- Half a step above the largest number, where whole numbers begin that no finite one stands for.
def wholeLimit : Nat := Nat.pow 2 1024 - Nat.pow 2 970

theorem of_nat_finite_iff (n : Nat) : (ofNat n).isFinite = true ↔ n < wholeLimit := by
  have first : nearest (wholeLimit * oneGrains) 1 = infinityBits := by decide +kernel
  have last : nearest ((wholeLimit - 1) * oneGrains) 1 < infinityBits := by decide +kernel
  rw [isFinite, decide_eq_true_eq, ofNat, magnitude_of (nearest_within _ _)]
  constructor
  · intro finite
    refine Nat.lt_of_not_le fun large => ?_
    have above := nearest_mono (Nat.mul_le_mul_right oneGrains large)
    rw [first] at above
    exact Nat.lt_irrefl _ (Nat.lt_of_le_of_lt above finite)
  · intro small
    exact Nat.lt_of_le_of_lt (nearest_mono (Nat.mul_le_mul_right oneGrains (Nat.le_sub_one_of_lt small))) last

end Endless

end Deckwright.Binary64
