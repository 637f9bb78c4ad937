import Deckwright.Binary64.Basic
set_option autoImplicit false

namespace Deckwright.Binary64

theorem divide_scaled {k : Nat} (positive : 0 < k) (num den : Nat) :
    divideToEven (k * num) (k * den) = divideToEven num den := by
  have below : 2 * (k * (num % den)) < k * den ↔ 2 * (num % den) < den := by
    rw [Nat.mul_left_comm, Nat.mul_lt_mul_left positive]
  have above : k * den < 2 * (k * (num % den)) ↔ den < 2 * (num % den) := by
    rw [Nat.mul_left_comm, Nat.mul_lt_mul_left positive]
  simp only [divideToEven, Nat.mul_div_mul_left _ _ positive, Nat.mul_mod_mul_left, below, above]

theorem divide_exact {den : Nat} (positive : 0 < den) (q : Nat) : divideToEven (q * den) den = q := by
  simp [divideToEven, Nat.mul_div_cancel _ positive, positive]

theorem divide_least (num den : Nat) : num / den ≤ divideToEven num den := by
  simp only [divideToEven]
  split
  · exact Nat.le_refl _
  · split <;> omega

theorem nearest_scaled {k : Nat} (positive : 0 < k) (num den : Nat) :
    nearest (k * num) (k * den) = nearest num den := by
  simp only [nearest, Nat.mul_div_mul_left _ _ positive, Nat.mul_assoc, divide_scaled positive]

theorem nearest_small {num den : Nat} (small : 2 * num < den) : nearest num den = 0 := by
  have none : num / den = 0 := Nat.div_eq_of_lt (by omega)
  have rest : num % den = num := Nat.mod_eq_of_lt (by omega)
  have zero : divideToEven num den = 0 := by simp [divideToEven, none, rest, small]
  simp [nearest, none, zero]

theorem quotient_long {num : Nat} (long : 52 ≤ num.log2) : exponentUnit ≤ num / Nat.pow 2 (num.log2 - 52) := by
  have positive : num ≠ 0 := by
    rintro rfl
    exact absurd long (by decide)
  rw [Nat.pow_eq, Nat.le_div_iff_mul_le (Nat.two_pow_pos _), show exponentUnit = 2 ^ 52 by decide, ← Nat.pow_add,
    Nat.add_sub_cancel' long]
  exact Nat.log2_self_le positive

theorem nearest_large {num : Nat} (large : Nat.pow 2 2098 ≤ num) : nearest num 1 = infinityBits := by
  have positive : num ≠ 0 := Nat.ne_of_gt (Nat.lt_of_lt_of_le (Nat.two_pow_pos 2098) large)
  have log : 2098 ≤ num.log2 := (Nat.le_log2 positive).2 large
  have first := quotient_long (Nat.le_trans (by decide) log)
  have rounded := divide_least num (1 * Nat.pow 2 (num.log2 - 52))
  rw [Nat.one_mul] at rounded
  have top : infinityBits = 2046 * exponentUnit + exponentUnit := by decide
  simp only [nearest, Nat.div_one, Nat.one_mul]
  apply Nat.min_eq_right
  rw [top]
  apply Nat.add_le_add (Nat.mul_le_mul_right _ (by omega))
  omega

theorem nearest_grains {m : Nat} (finite : m < infinityBits) : nearest (grainsOf m) 1 = m := by
  have bound : min m infinityBits = m := Nat.min_eq_left (Nat.le_of_lt finite)
  unfold grainsOf
  by_cases small : m < exponentUnit
  · have log : m.log2 - 52 = 0 := by
      by_cases zero : m = 0
      · subst zero
        decide
      · have below := (Nat.log2_lt zero (k := 52)).2 small
        omega
    have exact := divide_exact Nat.one_pos m
    simp only [if_pos small, nearest, Nat.div_one, log, Nat.zero_mul, Nat.zero_add]
    rw [Nat.mul_one] at exact
    simpa [exact] using bound
  · have unit : exponentUnit = 2 ^ 52 := by decide
    have high : 1 ≤ m / exponentUnit := (Nat.one_le_div_iff (by decide)).2 (Nat.le_of_not_lt small)
    have low : m % exponentUnit < exponentUnit := Nat.mod_lt _ (by decide)
    have split := Nat.div_add_mod m exponentUnit
    have log : ((exponentUnit + m % exponentUnit) * 2 ^ (m / exponentUnit - 1)).log2 - 52 = m / exponentUnit - 1 := by
      have whole : ((exponentUnit + m % exponentUnit) * 2 ^ (m / exponentUnit - 1)).log2 =
          52 + (m / exponentUnit - 1) := by
        rw [Nat.log2_eq_iff (Nat.mul_ne_zero (by omega) (Nat.ne_of_gt (Nat.two_pow_pos _)))]
        constructor
        · rw [Nat.pow_add]
          exact Nat.mul_le_mul_right _ (by omega)
        · rw [show 52 + (m / exponentUnit - 1) + 1 = 53 + (m / exponentUnit - 1) by omega, Nat.pow_add]
          exact Nat.mul_lt_mul_of_pos_right (by omega) (Nat.two_pow_pos _)
      omega
    simp only [if_neg small, nearest, Nat.div_one, Nat.pow_eq, log, Nat.one_mul,
      divide_exact (Nat.two_pow_pos _)]
    rw [← Nat.add_assoc, ← Nat.succ_mul, show (m / exponentUnit - 1).succ = m / exponentUnit by omega,
      Nat.mul_comm, split]
    exact bound

end Deckwright.Binary64
