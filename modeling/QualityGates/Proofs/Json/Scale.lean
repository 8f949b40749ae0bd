import QualityGates.Json.Number
import QualityGates.Proofs.Number.Shortest

/-!
# Words times powers of ten

A literal is a word times a power of ten. Small results are always floats, and a large one is where
it stays below the overflow after both factors have been rounded.
-/

namespace QualityGates.Json

open Number (IsNear isNear_toFloat isNear_powerOfTen isInf_mul overflow natCast_overflow)

/-- Whether a word times a power of ten is read as a float. -/
def Scales (digits : UInt64) (exponent : Int) : Prop :=
  ∃ x, scaleByTen digits.toFloat exponent = some x

/-- A small result is reached whatever the number of steps. -/
theorem scaleByTen_negative (x : Float) {k : Int} (negative : k < 0) :
    ∃ y, scaleByTen x k = some y := by
  induction steps : (-k).toNat using Nat.strongRecOn generalizing x k with
  | ind n ih =>
    rw [scaleByTen, if_neg (Int.not_le.mpr negative)]
    by_cases near : -308 ≤ k
    · exact ⟨_, if_pos near⟩
    · rw [if_neg near]
      by_cases zero : (x == 0.0) = true
      · exact ⟨_, if_pos zero⟩
      · rw [if_neg zero]
        exact ih _ (by omega) _ (by omega) rfl

/-- The powers of ten up to the overflow are floats. -/
theorem exponent_le {n k : Nat} (positive : 0 < n) (small : n * (10 : ℚ) ^ k ≤ overflow) :
    k ≤ 308 := by
  by_contra large
  obtain ⟨least, isLeast, order⟩ : ∃ least, least = 309 ∧ least ≤ k := ⟨309, rfl, by omega⟩
  have tooLarge : (2 ^ 54 - 1) * 2 ^ 970 < 10 ^ least := by rw [isLeast]; decide +kernel
  have whole : 10 ^ least ≤ n * 10 ^ k :=
    Nat.le_trans (Nat.pow_le_pow_right (by decide) order) (Nat.le_mul_of_pos_left _ positive)
  rw [← natCast_overflow] at small
  have small' : n * 10 ^ k ≤ (2 ^ 54 - 1) * 2 ^ 970 := by exact_mod_cast small
  omega

/-- A product with a power of ten is a float if it is finite. -/
theorem scales_of_finite {n : UInt64} {k : Nat} (few : k ≤ 308)
    (finite : (n.toFloat * powerOfTen k).isInf = false) : Scales n k := by
  refine ⟨n.toFloat * powerOfTen k, ?_⟩
  rw [scaleByTen, if_pos (Int.natCast_nonneg k), if_pos (by omega)]
  show (if (n.toFloat * powerOfTen k).isInf = true then none else _) = _
  rw [finite]
  rfl

/-- A positive word times a power of ten is read if the product stays below the overflow after it
has been rounded twice. -/
theorem scales_of_lt {n : UInt64} {k : Int} (positive : n ≠ 0)
    (small : n.toNat * (10 : ℚ) ^ k * (1 + 2 ^ (-53 : ℤ)) ^ 2 < overflow) : Scales n k := by
  rcases Int.lt_or_le k 0 with negative | whole
  · exact scaleByTen_negative n.toFloat negative
  · obtain ⟨k, rfl⟩ := Int.eq_ofNat_of_zero_le whole
    rw [zpow_natCast] at small
    have present : 0 < n.toNat :=
      Nat.pos_of_ne_zero fun zero => positive (UInt64.toNat_inj.mp zero)
    have one : (1 : ℚ) ≤ n.toNat := by exact_mod_cast present
    have few : k ≤ 308 := by
      refine exponent_le present (le_trans ?_ small.le)
      exact le_mul_of_one_le_right (by positivity) (one_le_pow₀ (by norm_num))
    have finite : (n.toFloat * powerOfTen k).isInf = false :=
      isInf_mul (isNear_toFloat positive) (isNear_powerOfTen few) one
        (one_le_pow₀ (by norm_num)) small
    exact scales_of_finite few finite

end QualityGates.Json
