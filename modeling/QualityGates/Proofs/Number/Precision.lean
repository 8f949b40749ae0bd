import Mathlib.Data.Nat.Cast.Order.Field
import Mathlib.Tactic.FieldSimp
import QualityGates.Proofs.Number.Bounded

/-!
# The precision of quotients and products

A word below `2 ^ 53` is a float with 53 bits. The quotient and the product of two such floats are
floats with 53 bits again, and they are off by at most one unit in the last place, which is a part
of at most `2 ^ -52`. The bound is not tight, so it holds alike for exact mantissas and for
quotients that were cut off.
-/

namespace QualityGates.Number

open Float.Model (Format totalExponent UnpackedFloat)
open Float.Model.UnpackedFloat

/-! ## Floats with 53 bits -/

/-- Floats with the same bits are the same. -/
theorem eq_of_toBits_eq {x y : Float} (same : x.toBits = y.toBits) : x = y := by
  obtain ⟨⟨bits, valid⟩⟩ := x
  obtain ⟨⟨bits', valid'⟩⟩ := y
  obtain rfl : bits = bits' := same
  rfl

/-- The parts of a float with 53 bits, whatever its sign is. -/
structure HasParts (x : Float) (m : Nat) (e : ℤ) : Prop where
  unpacked : ∃ sign positive, x.toModel.unpack = .finite sign m e positive
  low : 2 ^ 52 ≤ m
  high : m < 2 ^ 53

/-- Whether a magnitude is off from another one by a part of it that is at most `2 ^ -52`. -/
structure IsClose (w v : ℚ) : Prop where
  least : v * (1 - 2 ^ (-52 : ℤ)) ≤ w
  most : w ≤ v * (1 + 2 ^ (-52 : ℤ))

variable {x y : Float} {m m' : Nat} {e e' : ℤ}

/-- A float has one significand and one exponent. -/
theorem HasParts.unique (parts : HasParts x m e) (parts' : HasParts x m' e') : m = m' ∧ e = e' := by
  obtain ⟨sign, positive, unpacked⟩ := parts.unpacked
  obtain ⟨sign', positive', unpacked'⟩ := parts'.unpacked
  rw [unpacked] at unpacked'
  injection unpacked' with _ sameMantissa sameExponent
  exact ⟨sameMantissa, sameExponent⟩

/-- A significand with 53 bits. -/
theorem HasParts.log2_eq (parts : HasParts x m e) : m.log2 = 52 := by
  have present : m ≠ 0 := by
    have low := parts.low
    omega
  exact (Nat.log2_eq_iff present).mpr ⟨parts.low, parts.high⟩

/-- The magnitude of a float with 53 bits is positive. -/
theorem HasParts.pos (parts : HasParts x m e) : 0 < (m : ℚ) * 2 ^ e := by
  have low := parts.low
  have present : (0 : ℚ) < m := by exact_mod_cast (show 0 < m by omega)
  positivity

/-! ## Rounding -/

/-- What is at least `2 ^ 52` units and misses a magnitude by at most one of them is close to it. -/
theorem isClose_of_unit {v w u : ℚ} {q : Nat} (long : 2 ^ 52 ≤ q) (unit : 0 < u)
    (low : q * u ≤ v) (high : v ≤ (q + 1) * u) (low' : q * u ≤ w) (high' : w ≤ (q + 1) * u) :
    IsClose w v := by
  have long' : ((2 : ℚ) ^ 52) ≤ q := by exact_mod_cast long
  have whole : (2 : ℚ) ^ 52 * u ≤ v := by
    have grown : (2 : ℚ) ^ 52 * u ≤ q * u := mul_le_mul_of_nonneg_right long' unit.le
    linarith
  have part : (2 : ℚ) ^ 52 * 2 ^ (-52 : ℤ) = 1 := by norm_num
  have small : u ≤ v * 2 ^ (-52 : ℤ) := by
    have scaled := mul_le_mul_of_nonneg_right whole (show (0 : ℚ) ≤ 2 ^ (-52 : ℤ) by positivity)
    linear_combination scaled - u * part
  constructor <;> linarith

/-- A magnitude whose first bits are a mantissa with at least 53 bits is close to what the mantissa
is rounded to. -/
theorem exists_parts_of_round {s : Nat} {v : ℚ} {accuracy : Accuracy} {sign : Sign}
    (size : m.log2 = 52 + s) (least : -1074 ≤ e) (most : e + s ≤ 970)
    (low : m * (2 : ℚ) ^ e ≤ v) (high : v ≤ (m + 1) * (2 : ℚ) ^ e)
    (made : x.toModel = Float.Model.pack (roundWithAccuracy Format.binary64 sign m e accuracy)) :
    ∃ m' e', HasParts x m' e' ∧ IsClose (m' * 2 ^ e') v ∧ e + s ≤ e' ∧ e' ≤ e + s + 1 := by
  obtain ⟨r, nearest⟩ : ∃ r,
      (ExtendedMantissa.ofMantissaAndAccuracy m accuracy >>> s).roundedMantissa = r := ⟨_, rfl⟩
  obtain ⟨floor, ceiling⟩ := roundedMantissa_bounds m s accuracy
  rw [nearest] at floor ceiling
  -- The magnitude and what it is rounded to are between the same two multiples of the unit.
  have close : IsClose (r * (2 : ℚ) ^ (e + s)) v := by
    have scale : (2 : ℚ) ^ (e + s) = 2 ^ s * 2 ^ e := by
      rw [zpow_add₀ two_ne_zero, zpow_natCast, mul_comm]
    have unit : (0 : ℚ) < 2 ^ e := by positivity
    have below : ((m / 2 ^ s * 2 ^ s : Nat) : ℚ) ≤ m := by
      exact_mod_cast Nat.div_mul_le_self m (2 ^ s)
    have above : ((m + 1 : Nat) : ℚ) ≤ ((m / 2 ^ s + 1) * 2 ^ s : Nat) := by
      have next := Nat.lt_div_mul_add (a := m) (Nat.two_pow_pos s)
      have next' : m + 1 ≤ (m / 2 ^ s + 1) * 2 ^ s := by
        rw [Nat.add_mul, Nat.one_mul]
        omega
      exact_mod_cast next'
    have below' := mul_le_mul_of_nonneg_right below unit.le
    have above' := mul_le_mul_of_nonneg_right above unit.le
    push_cast at below' above'
    have floor' : ((m / 2 ^ s : Nat) : ℚ) ≤ r := by exact_mod_cast floor
    have ceiling' : (r : ℚ) ≤ ((m / 2 ^ s : Nat) : ℚ) + 1 := by exact_mod_cast ceiling
    have unit' : (0 : ℚ) ≤ 2 ^ (e + s) := by positivity
    refine isClose_of_unit (quotient_bounds size).1 (by positivity) ?_ ?_
      (mul_le_mul_of_nonneg_right floor' unit') (mul_le_mul_of_nonneg_right ceiling' unit')
    · rw [scale]
      linarith
    · rw [scale]
      linarith
  rcases roundWithAccuracy_long (e := e) sign accuracy size (by omega) nearest with
    ⟨long, short, positive, round⟩ | ⟨carries, positive, round⟩
  · obtain ⟨sign', kept⟩ :=
      unpack_pack (e := e + s) sign positive long short (by omega) (by omega)
    refine ⟨r, e + s, ⟨⟨sign', positive, ?_⟩, long, short⟩, close, le_refl _, by omega⟩
    rw [made, round, kept]
  · obtain ⟨sign', kept⟩ :=
      unpack_pack (e := e + s + 1) sign positive (Nat.le_refl _) (by decide) (by omega) (by omega)
    have doubled : ((2 ^ 52 : Nat) : ℚ) * 2 ^ (e + s + 1) = r * 2 ^ (e + s) := by
      rw [carries, zpow_add_one₀ two_ne_zero]
      push_cast
      ring
    refine ⟨2 ^ 52, e + s + 1, ⟨⟨sign', positive, ?_⟩, Nat.le_refl _, by decide⟩, ?_, by omega,
      le_refl _⟩
    · rw [made, round, kept]
    · rw [doubled]
      exact close

/-! ## Words, quotients and products -/

/-- A positive word below `2 ^ 53` is a float. -/
theorem exists_parts_toFloat {n : UInt64} (positive : n ≠ 0) (short : n.toNat < 2 ^ 53) :
    ∃ m e, HasParts n.toFloat m e ∧ (m : ℚ) * 2 ^ e = n.toNat ∧ -52 ≤ e ∧ e ≤ 0 := by
  obtain ⟨shift, made, long, few, bounded⟩ := toModel_toFloat positive
  have high := bounded short
  have size : (n.toNat * 2 ^ shift).log2 = 52 + 0 := by
    rw [Nat.log2_eq_iff (by omega)]
    exact ⟨long, high⟩
  have nearest : (ExtendedMantissa.ofMantissaAndAccuracy (n.toNat * 2 ^ shift)
      .exact >>> 0).roundedMantissa = n.toNat * 2 ^ shift := rfl
  rcases roundWithAccuracy_long (e := -(shift : ℤ)) .positive .exact size (by omega) nearest with
    ⟨_, _, present, round⟩ | ⟨carries, _⟩
  · obtain ⟨sign', kept⟩ :=
      unpack_pack (e := -(shift : ℤ)) .positive present long high (by omega) (by omega)
    rw [Nat.cast_zero, add_zero] at round
    refine ⟨n.toNat * 2 ^ shift, -(shift : ℤ), ⟨⟨sign', present, ?_⟩, long, high⟩,
      moved_word n.toNat shift, by omega, by omega⟩
    rw [made, round, kept]
  · omega

/-- Dividing floats with 53 bits leaves 53 or 54 bits of the quotient. -/
theorem divCore_parts (parts : HasParts x m e) (parts' : HasParts y m' e')
    (least : -1021 ≤ e - e') : divCore Format.binary64 m e m' e' =
      (m * 2 ^ 53 / m', e - e' - 53, accuracyOfFraction (m * 2 ^ 53 % m') m') := by
  have aimed : Format.binary64.targetExponent (totalExponent m e - totalExponent m' e') =
      max (totalExponent m e - totalExponent m' e' - 53) (-1074) := rfl
  have target : min (e - e')
      (Format.binary64.targetExponent (totalExponent m e - totalExponent m' e')) =
        e - e' - 53 := by
    unfold totalExponent at aimed ⊢
    rw [parts.log2_eq, parts'.log2_eq] at *
    omega
  have shift : (e - e' - (e - e' - 53)).toNat = 53 := by omega
  unfold divCore
  dsimp only
  rw [target, shift, Nat.shiftLeft_eq]

/-- A float with 53 bits goes into itself once. -/
theorem div_self (parts : HasParts x m e) : x / x = 1.0 := by
  have divided := divCore_parts parts parts (by omega)
  obtain ⟨sign, positive, unpacked⟩ := parts.unpacked
  have once : m * 2 ^ 53 / m = 2 ^ 53 := Nat.mul_div_cancel_left _ positive
  have even : m * 2 ^ 53 % m = 0 := Nat.mul_mod_right m (2 ^ 53)
  have exponent : e - e - 53 = -53 := by omega
  have unsigned : sign / sign = .positive := by cases sign <;> rfl
  rw [once, even, exponent] at divided
  have made := toModel_div unpacked unpacked divided
  rw [unsigned] at made
  exact congrArg Float.ofModel made

/-- The quotient of floats with 53 bits is close to the exact one. -/
theorem exists_parts_div (parts : HasParts x m e) (parts' : HasParts y m' e')
    (least : -1021 ≤ e - e') (most : e - e' ≤ 1000) :
    ∃ n k, HasParts (x / y) n k ∧ IsClose (n * 2 ^ k) (m * 2 ^ e / (m' * 2 ^ e')) ∧
      e - e' - 53 ≤ k ∧ k ≤ e - e' - 51 := by
  have divided := divCore_parts parts parts' least
  obtain ⟨sign, positive, unpacked⟩ := parts.unpacked
  obtain ⟨sign', positive', unpacked'⟩ := parts'.unpacked
  have made := toModel_div unpacked unpacked' divided
  have low := parts.low
  have high := parts.high
  have low' := parts'.low
  have high' := parts'.high
  -- The quotient of the significands is between `2 ^ 52` and `2 ^ 54`.
  have long : 2 ^ 52 ≤ m * 2 ^ 53 / m' := by
    rw [Nat.le_div_iff_mul_le positive']
    calc 2 ^ 52 * m' ≤ 2 ^ 52 * 2 ^ 53 := Nat.mul_le_mul_left _ high'.le
      _ ≤ m * 2 ^ 53 := Nat.mul_le_mul_right _ low
  have short : m * 2 ^ 53 / m' < 2 ^ 54 := by
    rw [Nat.div_lt_iff_lt_mul positive']
    calc m * 2 ^ 53 < 2 ^ 53 * 2 ^ 53 := Nat.mul_lt_mul_of_pos_right high (by decide)
      _ = 2 ^ 54 * 2 ^ 52 := by norm_num
      _ ≤ 2 ^ 54 * m' := Nat.mul_le_mul_left _ low'
  obtain ⟨s, size, few⟩ : ∃ s : Nat, (m * 2 ^ 53 / m').log2 = 52 + s ∧ s ≤ 1 := by
    have atLeast := (Nat.le_log2 (show m * 2 ^ 53 / m' ≠ 0 by omega)).mpr long
    have atMost : (m * 2 ^ 53 / m').log2 < 54 := (Nat.log2_lt (by omega)).mpr short
    exact ⟨(m * 2 ^ 53 / m').log2 - 52, by omega, by omega⟩
  have exact : (m : ℚ) * 2 ^ e / (m' * 2 ^ e') =
      (m * 2 ^ 53 : Nat) / (m' : ℚ) * 2 ^ (e - e' - 53) := by
    have present : (m' : ℚ) ≠ 0 := by exact_mod_cast positive'.ne'
    rw [zpow_sub₀ two_ne_zero, zpow_sub₀ two_ne_zero]
    push_cast
    field_simp
  have unit : (0 : ℚ) ≤ 2 ^ (e - e' - 53) := by positivity
  have present : (0 : ℚ) < m' := by exact_mod_cast positive'
  have floor : ((m * 2 ^ 53 / m' : Nat) : ℚ) * 2 ^ (e - e' - 53) ≤ m * 2 ^ e / (m' * 2 ^ e') := by
    rw [exact]
    exact mul_le_mul_of_nonneg_right Nat.cast_div_le unit
  have ceiling : (m : ℚ) * 2 ^ e / (m' * 2 ^ e') ≤
      ((m * 2 ^ 53 / m' : Nat) + 1) * 2 ^ (e - e' - 53) := by
    rw [exact]
    refine mul_le_mul_of_nonneg_right ?_ unit
    rw [div_le_iff₀ present]
    have next := Nat.lt_div_mul_add (a := m * 2 ^ 53) positive'
    have next' : m * 2 ^ 53 ≤ (m * 2 ^ 53 / m' + 1) * m' := by
      rw [Nat.add_mul, Nat.one_mul]
      omega
    exact_mod_cast next'
  obtain ⟨n, k, result, close, above, below⟩ :=
    exists_parts_of_round size (by omega) (by omega) floor ceiling made
  exact ⟨n, k, result, close, by omega, by omega⟩

/-- The product of floats with 53 bits is close to the exact one. -/
theorem exists_parts_mul (parts : HasParts x m e) (parts' : HasParts y m' e')
    (least : -1074 ≤ e + e') (most : e + e' ≤ 900) :
    ∃ n k, HasParts (x * y) n k ∧ IsClose (n * 2 ^ k) (m * 2 ^ e * (m' * 2 ^ e')) := by
  obtain ⟨sign, positive, unpacked⟩ := parts.unpacked
  obtain ⟨sign', positive', unpacked'⟩ := parts'.unpacked
  have made := toModel_mul unpacked unpacked'
  have long : 2 ^ 52 ≤ m * m' := Nat.le_trans parts.low (Nat.le_mul_of_pos_right m positive')
  have short : m * m' < 2 ^ 106 := by
    calc m * m' < 2 ^ 53 * 2 ^ 53 := Nat.mul_lt_mul'' parts.high parts'.high
      _ = 2 ^ 106 := by norm_num
  obtain ⟨s, size, few⟩ : ∃ s : Nat, (m * m').log2 = 52 + s ∧ s ≤ 53 := by
    have atLeast := (Nat.le_log2 (show m * m' ≠ 0 by omega)).mpr long
    have atMost : (m * m').log2 < 106 := (Nat.log2_lt (by omega)).mpr short
    exact ⟨(m * m').log2 - 52, by omega, by omega⟩
  have exact : (m : ℚ) * 2 ^ e * (m' * 2 ^ e') = (m * m' : Nat) * 2 ^ (e + e') := by
    rw [zpow_add₀ two_ne_zero]
    push_cast
    ring
  have unit : (0 : ℚ) ≤ 2 ^ (e + e') := by positivity
  obtain ⟨n, k, result, close, _⟩ := exists_parts_of_round (v := m * 2 ^ e * (m' * 2 ^ e')) size
    (by omega) (by omega) exact.ge (by rw [exact]; linarith) made
  exact ⟨n, k, result, close⟩

end QualityGates.Number
