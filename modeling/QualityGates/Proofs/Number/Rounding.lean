import Mathlib.Algebra.Order.Field.Power
import Mathlib.Data.Rat.Cast.Order
import Mathlib.Tactic.Linarith
import Mathlib.Tactic.LinearCombination
import Mathlib.Tactic.NormNum
import Mathlib.Tactic.Positivity
import Mathlib.Tactic.Ring

/-!
# Rounding to floats

A positive magnitude `m * 2 ^ e` with at least 53 bits that is not too small is rounded to a
significand of exactly 53 bits. The result exceeds the magnitude by at most half a unit in the last
place, so by a factor of at most `1 + 2 ^ -53`, and it is finite up to the middle between the
largest float and the power of two above it.
-/

namespace QualityGates.Number

open Float.Model (Format totalExponent UnpackedFloat)
open Float.Model.UnpackedFloat

/-! ## Shifting and rounding a mantissa -/

/-- Bits that are shifted out leave the quotient. -/
theorem shift_mantissa (m s : Nat) (accuracy : Accuracy) :
    (ExtendedMantissa.ofMantissaAndAccuracy m accuracy >>> s).mantissa = m / 2 ^ s := by
  induction s with
  | zero =>
    refine Eq.trans ?_ (Nat.div_one m).symm
    cases accuracy with
    | exact => rfl
    | inexact order => cases order <;> rfl
  | succ s ih =>
    show (ExtendedMantissa.ofMantissaAndAccuracy m accuracy >>> s).mantissa / 2 = _
    rw [ih, Nat.div_div_eq_div_mul, Nat.pow_succ]

/-- The bit that is shifted out last is set only where at least half a unit is lost. -/
theorem half_le_of_roundBit {m s : Nat}
    (set : (ExtendedMantissa.ofMantissaAndAccuracy m .exact >>> s).roundBit = true) :
    2 * (m / 2 ^ s * 2 ^ s) + 2 ^ s ≤ 2 * m := by
  cases s with
  | zero => cases set
  | succ s =>
    have odd : m / 2 ^ s % 2 ≠ 0 := by
      have last : ((ExtendedMantissa.ofMantissaAndAccuracy m .exact >>> s).mantissa % 2 != 0) =
        true := set
      rwa [shift_mantissa, bne_iff_ne] at last
    have halved : m / 2 ^ (s + 1) = m / 2 ^ s / 2 := by
      rw [Nat.div_div_eq_div_mul, Nat.pow_succ]
    have whole : 2 * (m / 2 ^ s / 2) + 1 = m / 2 ^ s := by omega
    have below := Nat.div_mul_le_self m (2 ^ s)
    rw [← whole] at below
    rw [halved, Nat.pow_succ]
    nlinarith

/-- Rounding goes up by at most one, and only where the bit that was shifted out last is set. -/
theorem roundedMantissa_cases (x : ExtendedMantissa) :
    x.roundedMantissa = x.mantissa ∨ x.roundedMantissa = x.mantissa + 1 ∧ x.roundBit = true := by
  obtain ⟨m, round, sticky⟩ := x
  cases round with
  | false => cases sticky <;> exact .inl rfl
  | true =>
    cases sticky with
    | true => exact .inr ⟨rfl, rfl⟩
    | false =>
      have even : (ExtendedMantissa.mk m true false).roundedMantissa = m + m % 2 := rfl
      rcases Nat.mod_two_eq_zero_or_one m with even' | odd
      · exact .inl (by rw [even, even']; rfl)
      · exact .inr ⟨by rw [even, odd], rfl⟩

/-- A mantissa that is shifted and rounded. -/
def rounded (m s : Nat) : Nat :=
  (ExtendedMantissa.ofMantissaAndAccuracy m .exact >>> s).roundedMantissa

/-- Rounding is off by at most half a unit upwards and leaves at least the quotient. -/
theorem rounded_bounds (m s : Nat) :
    m / 2 ^ s ≤ rounded m s ∧ rounded m s ≤ m / 2 ^ s + 1 ∧
      2 * (rounded m s * 2 ^ s) ≤ 2 * m + 2 ^ s := by
  have below := Nat.div_mul_le_self m (2 ^ s)
  unfold rounded
  rcases roundedMantissa_cases (ExtendedMantissa.ofMantissaAndAccuracy m .exact >>> s) with
    down | ⟨up, set⟩
  · rw [down, shift_mantissa]
    exact ⟨Nat.le_refl _, Nat.le_succ _,
      Nat.le_trans (Nat.mul_le_mul_left 2 below) (Nat.le_add_right _ _)⟩
  · have half := half_le_of_roundBit set
    rw [up, shift_mantissa, Nat.add_mul, Nat.one_mul]
    exact ⟨Nat.le_succ _, Nat.le_refl _, by linarith⟩

/-! ## Rounding a magnitude -/

/-- The exponent that leaves 53 bits, unless it is too small. -/
theorem targetExponent_eq (m : Nat) (e : ℤ) :
    Format.binary64.targetExponent (totalExponent m e) = max (m.log2 + 1 + e - 53) (-1074) :=
  rfl

/-- The exponent of a normal significand is kept. -/
theorem shiftToTargetExponent_normal {m : Nat} {e : ℤ} (low : 2 ^ 52 ≤ m) (high : m < 2 ^ 53)
    (least : -1074 ≤ e) :
    shiftToTargetExponent Format.binary64 m e .exact = (⟨m, false, false⟩, e) := by
  have size : m.log2 = 52 := (Nat.log2_eq_iff (by omega)).mpr ⟨low, high⟩
  have target : Format.binary64.targetExponent (totalExponent m e) = e := by
    rw [targetExponent_eq, size]
    omega
  unfold shiftToTargetExponent shiftToExponent
  simp only [target, sub_self]
  exact Prod.ext rfl (add_zero e)

/-- A carry into a bit more is shifted back. -/
theorem shiftToTargetExponent_carry {e : ℤ} (least : -1074 ≤ e) :
    shiftToTargetExponent Format.binary64 (2 ^ 53) e .exact = (⟨2 ^ 52, false, false⟩, e + 1) := by
  have target : Format.binary64.targetExponent (totalExponent (2 ^ 53) e) = e + 1 := by
    rw [targetExponent_eq, Nat.log2_two_pow]
    omega
  unfold shiftToTargetExponent shiftToExponent
  simp only [target, add_sub_cancel_left]
  exact Prod.ext rfl rfl

/-- A magnitude from which finite floats are left. -/
def overflow : ℚ := (2 ^ 54 - 1) * 2 ^ (970 : ℤ)

/-- What is known of the significand and the exponent to which a positive magnitude is rounded. -/
structure RoundsTo (v : ℚ) (m : Nat) (e : ℤ) : Prop where
  /-- The significand has 53 bits. -/
  low : 2 ^ 52 ≤ m
  high : m < 2 ^ 53
  /-- The exponent is one of a float, unless the magnitude is too large. -/
  least : -1074 ≤ e
  most : v < overflow → e ≤ 971
  /-- The magnitude has at most 53 bits before the point. -/
  above : v < 2 ^ 53 * (2 : ℚ) ^ e
  /-- The magnitude is exceeded by a small factor at most. -/
  near : m * (2 : ℚ) ^ e ≤ v * (1 + 2 ^ (-53 : ℤ))

/-- From the first exponent that is too large on, `2 ^ 52` units reach the overflow. -/
theorem overflow_le {e : ℤ} (large : 972 ≤ e) : overflow ≤ 2 ^ 52 * (2 : ℚ) ^ e := by
  have grown : (2 : ℚ) ^ (970 + 2 : ℤ) ≤ 2 ^ e := zpow_le_zpow_right₀ one_le_two large
  have unit : (0 : ℚ) < 2 ^ (970 : ℤ) := by positivity
  have four : (2 : ℚ) ^ (2 : ℤ) = 4 := by norm_num
  rw [zpow_add₀ two_ne_zero, four] at grown
  unfold overflow
  generalize (2 : ℚ) ^ (970 : ℤ) = least at grown unit ⊢
  linarith

/-- Half a unit is a small part of `2 ^ 52` units. -/
theorem half_unit_le {v : ℚ} {e : ℤ} (units : 2 ^ 52 * (2 : ℚ) ^ e ≤ v) :
    (2 : ℚ) ^ e ≤ 2 * (v * 2 ^ (-53 : ℤ)) := by
  have part : (2 : ℚ) ^ (-53 : ℤ) * 2 ^ 53 = 1 := by norm_num
  have scaled := mul_le_mul_of_nonneg_right units (show (0 : ℚ) ≤ 2 ^ (-53 : ℤ) by positivity)
  linear_combination 2 * scaled - 2 ^ e * part

/-- A magnitude that is rounded to 53 bits is at least `2 ^ 52` units in the last place and is
exceeded by half a unit at most. -/
theorem RoundsTo.of_units {v : ℚ} {m : Nat} {e : ℤ} (low : 2 ^ 52 ≤ m) (high : m < 2 ^ 53)
    (least : -1074 ≤ e) (units : 2 ^ 52 * (2 : ℚ) ^ e ≤ v) (above : v < 2 ^ 53 * 2 ^ e)
    (half : 2 * m * (2 : ℚ) ^ e ≤ 2 * v + 2 ^ e) : RoundsTo v m e := by
  refine ⟨low, high, least, fun small => ?_, above, ?_⟩
  · by_contra large
    have reached := overflow_le (e := e) (by omega)
    linarith
  · have small := half_unit_le units
    linarith

/-- A magnitude that is rounded up to a bit more has the carry shifted back. -/
theorem RoundsTo.of_carry {v : ℚ} {e : ℤ} (least : -1074 ≤ e) (units : 2 ^ 52 * (2 : ℚ) ^ e ≤ v)
    (above : v < 2 ^ 53 * 2 ^ e) (half : 2 * 2 ^ 53 * (2 : ℚ) ^ e ≤ 2 * v + 2 ^ e) :
    RoundsTo v (2 ^ 52) (e + 1) := by
  have doubled : (2 : ℚ) ^ (e + 1) = 2 * 2 ^ e := by rw [zpow_add_one₀ two_ne_zero, mul_comm]
  have unit : (0 : ℚ) < 2 ^ e := by positivity
  refine ⟨Nat.le_refl _, by decide, by omega, fun small => ?_, ?_, ?_⟩
  · by_contra large
    have grown : (2 : ℚ) ^ (970 + 1 : ℤ) ≤ 2 ^ e := zpow_le_zpow_right₀ one_le_two (by omega)
    rw [zpow_add₀ two_ne_zero] at grown
    unfold overflow at small
    linarith
  · rw [doubled]
    linarith
  · have small := half_unit_le units
    rw [doubled]
    push_cast
    linarith

/-- A mantissa is shifted until its exponent is the one that is aimed at. -/
theorem shiftToTargetExponent_of_target {m s : Nat} {e : ℤ} (accuracy : Accuracy)
    (target : Format.binary64.targetExponent (totalExponent m e) = e + s) :
    shiftToTargetExponent Format.binary64 m e accuracy =
      (ExtendedMantissa.ofMantissaAndAccuracy m accuracy >>> s, e + s) := by
  unfold shiftToTargetExponent shiftToExponent
  simp only [target, add_sub_cancel_left, Int.toNat_natCast]

/-- The first shift leaves 53 bits. -/
theorem shiftToTargetExponent_long {m s : Nat} {e : ℤ} (accuracy : Accuracy)
    (size : m.log2 = 52 + s) (least : -1074 ≤ e + s) :
    shiftToTargetExponent Format.binary64 m e accuracy =
      (ExtendedMantissa.ofMantissaAndAccuracy m accuracy >>> s, e + s) := by
  apply shiftToTargetExponent_of_target
  rw [targetExponent_eq, size]
  omega

/-- The quotient that the first shift leaves has 53 bits. -/
theorem quotient_bounds {m s : Nat} (size : m.log2 = 52 + s) :
    2 ^ 52 ≤ m / 2 ^ s ∧ m / 2 ^ s < 2 ^ 53 := by
  have present : m ≠ 0 := by
    rintro rfl
    rw [Nat.log2_zero] at size
    omega
  obtain ⟨low, high⟩ := (Nat.log2_eq_iff present).mp size
  rw [Nat.le_div_iff_mul_le (Nat.two_pow_pos s), Nat.div_lt_iff_lt_mul (Nat.two_pow_pos s),
    ← Nat.pow_add, ← Nat.pow_add]
  refine ⟨low, ?_⟩
  rwa [show 53 + s = 52 + s + 1 by omega]

/-- Bounds on a rounded mantissa are bounds on what it stands for. -/
theorem rounded_units {m s : Nat} (e : ℤ) (size : m.log2 = 52 + s) :
    2 ^ 52 * (2 : ℚ) ^ (e + s) ≤ m * 2 ^ e ∧ m * (2 : ℚ) ^ e < 2 ^ 53 * 2 ^ (e + s) ∧
      2 * rounded m s * (2 : ℚ) ^ (e + s) ≤ 2 * (m * 2 ^ e) + 2 ^ (e + s) := by
  have unit : (0 : ℚ) < 2 ^ e := by positivity
  obtain ⟨low, high⟩ := quotient_bounds size
  have units : ((2 ^ 52 * 2 ^ s : Nat) : ℚ) ≤ m := by
    exact_mod_cast (Nat.le_div_iff_mul_le (Nat.two_pow_pos s)).mp low
  have above : (m : ℚ) < (2 ^ 53 * 2 ^ s : Nat) := by
    exact_mod_cast (Nat.div_lt_iff_lt_mul (Nat.two_pow_pos s)).mp high
  have half : ((2 * (rounded m s * 2 ^ s) : Nat) : ℚ) ≤ (2 * m + 2 ^ s : Nat) := by
    exact_mod_cast (rounded_bounds m s).2.2
  have units' := mul_le_mul_of_nonneg_right units unit.le
  have above' := mul_lt_mul_of_pos_right above unit
  have half' := mul_le_mul_of_nonneg_right half unit.le
  push_cast at units' above' half'
  rw [zpow_add₀ two_ne_zero, zpow_natCast]
  refine ⟨?_, ?_, ?_⟩ <;> linarith

/-- A mantissa that is shifted and rounded is its quotient or one more. -/
theorem roundedMantissa_bounds (m s : Nat) (accuracy : Accuracy) :
    m / 2 ^ s ≤ (ExtendedMantissa.ofMantissaAndAccuracy m accuracy >>> s).roundedMantissa ∧
      (ExtendedMantissa.ofMantissaAndAccuracy m accuracy >>> s).roundedMantissa ≤
        m / 2 ^ s + 1 := by
  have shifted := shift_mantissa m s accuracy
  rcases roundedMantissa_cases (ExtendedMantissa.ofMantissaAndAccuracy m accuracy >>> s) with
    down | ⟨up, _⟩ <;> omega

/-- A mantissa with at least 53 bits above the subnormal ones is rounded to one with 53 bits, or to
the power of two behind them, which is shifted back. -/
theorem roundWithAccuracy_long (sign : Sign) {m s r : Nat} {e : ℤ} (accuracy : Accuracy)
    (size : m.log2 = 52 + s) (least : -1074 ≤ e + s)
    (nearest : (ExtendedMantissa.ofMantissaAndAccuracy m accuracy >>> s).roundedMantissa = r) :
    (2 ^ 52 ≤ r ∧ r < 2 ^ 53 ∧ ∃ positive,
      roundWithAccuracy Format.binary64 sign m e accuracy = .finite sign r (e + s) positive) ∨
    (r = 2 ^ 53 ∧ ∃ positive, roundWithAccuracy Format.binary64 sign m e accuracy =
      .finite sign (2 ^ 52) (e + s + 1) positive) := by
  obtain ⟨low, high⟩ := quotient_bounds size
  obtain ⟨floor, ceiling⟩ := roundedMantissa_bounds m s accuracy
  rw [nearest] at floor ceiling
  have first := shiftToTargetExponent_long accuracy size least
  unfold roundWithAccuracy
  rw [first]
  dsimp only
  rw [nearest]
  rcases Nat.lt_or_eq_of_le (show r ≤ 2 ^ 53 by omega) with fits | carries
  · have second := shiftToTargetExponent_normal (e := e + s) (by omega) fits least
    have present : r ≠ 0 := by omega
    refine .inl ⟨by omega, fits, by omega, ?_⟩
    rw [second]
    exact dif_neg present
  · have second := shiftToTargetExponent_carry (e := e + s) least
    refine .inr ⟨carries, by decide, ?_⟩
    rw [carries, second]
    rfl

/-- A magnitude with at least 53 bits above the subnormal ones is rounded to 53 bits. -/
theorem roundWithAccuracy_normal (sign : Sign) {m s : Nat} {e : ℤ} (size : m.log2 = 52 + s)
    (least : -1074 ≤ e + s) :
    ∃ m' e' positive, roundWithAccuracy Format.binary64 sign m e .exact =
      .finite sign m' e' positive ∧ RoundsTo (m * 2 ^ e) m' e' := by
  obtain ⟨units, above, half⟩ := rounded_units e size
  have nearest : _ = rounded m s := rfl
  rcases roundWithAccuracy_long sign .exact size least nearest with
    ⟨low, fits, positive, round⟩ | ⟨carries, positive, round⟩
  · exact ⟨rounded m s, e + s, positive, round, .of_units low fits least units above half⟩
  · rw [carries] at half
    push_cast at half
    exact ⟨2 ^ 52, e + s + 1, positive, round, .of_carry least units above half⟩

/-! ## Floats near a magnitude -/

/-- Finite floats with the same parts are the same. -/
theorem finite_eq {sign : Sign} {m m' : Nat} {e e' : ℤ} {positive : 0 < m} {positive' : 0 < m'}
    (sameMantissa : m' = m) (sameExponent : e' = e) :
    UnpackedFloat.finite sign m' e' positive' = .finite sign m e positive := by
  subst sameMantissa sameExponent
  rfl

/-- Packing a float with 53 bits keeps its magnitude, unless the exponent is too large. -/
theorem unpack_pack (sign : Sign) {m : Nat} {e : ℤ} (positive : 0 < m) (low : 2 ^ 52 ≤ m)
    (high : m < 2 ^ 53) (least : -1074 ≤ e) (most : e ≤ 971) :
    ∃ sign', (Float.Model.pack (.finite sign m e positive)).unpack =
      .finite sign' m e positive := by
  obtain ⟨biased, rfl⟩ : ∃ biased : Nat, e = biased - 1075 := ⟨(e + 1075).toNat, by omega⟩
  have size : m.log2 + 1 = Format.binary64.mantissaBits := by
    rw [(Nat.log2_eq_iff (by omega)).mpr ⟨low, high⟩]
    rfl
  have exponent : ((biased : ℤ) - 1075 + Format.binary64.exponentBias +
      Format.binary64.mantissaBitsWithoutImplicit).toNat = biased := by
    show ((biased : ℤ) - 1075 + 1023 + 52).toNat = biased
    omega
  have fits : (BitVec.ofNat 11 biased).toNat = biased := Nat.mod_eq_of_lt (by omega)
  have finite : BitVec.ofNat 11 biased ≠ -1#_ := by
    intro same
    have same' : (BitVec.ofNat 11 biased).toNat = 2047 := congrArg BitVec.toNat same
    omega
  have normal : BitVec.ofNat 11 biased ≠ 0#_ := by
    intro same
    have same' : (BitVec.ofNat 11 biased).toNat = 0 := congrArg BitVec.toNat same
    omega
  have mantissa : (1#1 ++ BitVec.ofNat 52 m).toNat = m := by
    have split := Nat.two_pow_add_eq_or_of_lt (Nat.mod_lt m (Nat.two_pow_pos 52)) 1
    rw [BitVec.toNat_append, BitVec.toNat_ofNat, Nat.shiftLeft_eq, Nat.mul_comm]
    exact split.symm.trans (by omega)
  have packed : pack Format.binary64 (.finite sign m (biased - 1075) positive) =
      packComponents Format.binary64 sign (BitVec.ofNat 11 biased) (BitVec.ofNat 52 m) := by
    unfold pack
    dsimp only
    rw [exponent, if_neg (show ¬ 2 ^ 11 ≤ biased + 1 by omega), if_pos size]
  refine ⟨Sign.ofBitVec
    (unpackSign (pack Format.binary64 (.finite sign m (biased - 1075) positive))), ?_⟩
  show unpack Format.binary64 (pack Format.binary64 _) = _
  rw [packed]
  unfold unpack
  dsimp only
  rw [if_neg (by rw [unpackExponent_packComponents]; exact finite),
    if_neg (by rw [unpackExponent_packComponents]; exact normal)]
  refine finite_eq ?_ ?_
  · rw [unpackMantissa_packComponents]
    exact mantissa
  · rw [unpackExponent_packComponents, fits]
    rfl

/-- Whether a float has the magnitude to which another one is rounded. -/
def IsNear (x : Float) (v : ℚ) : Prop :=
  ∃ sign m e positive, x.toModel.unpack = .finite sign m e positive ∧ RoundsTo v m e

/-- A magnitude below the overflow that is rounded and packed has a float near it. -/
theorem isNear_of_round {x : Float} (sign : Sign) {m : Nat} {e : ℤ} (low : 2 ^ 52 ≤ m)
    (least : -1074 ≤ e) (small : m * (2 : ℚ) ^ e < overflow)
    (made : x.toModel = Float.Model.pack (roundWithAccuracy Format.binary64 sign m e .exact)) :
    IsNear x (m * 2 ^ e) := by
  have long : 52 ≤ m.log2 := (Nat.le_log2 (by omega)).mpr low
  obtain ⟨m', e', positive, round, near⟩ := roundWithAccuracy_normal (e := e) sign
    (show m.log2 = 52 + (m.log2 - 52) by omega) (by omega)
  obtain ⟨sign', kept⟩ :=
    unpack_pack sign positive near.low near.high near.least (near.most small)
  refine ⟨sign', m', e', positive, ?_, near⟩
  rw [made, round, kept]

/-- The overflow is a whole number. -/
theorem natCast_overflow : (((2 ^ 54 - 1) * 2 ^ 970 : Nat) : ℚ) = overflow := by
  have front : ((2 ^ 54 - 1 : Nat) : ℚ) = 2 ^ 54 - 1 := by norm_num
  unfold overflow
  rw [Nat.cast_mul, Nat.cast_pow, front]
  exact congrArg _ (zpow_natCast (2 : ℚ) 970).symm

/-- A word is moved to the left until it has at least 53 bits. -/
theorem decreaseExponent_word {n : Nat} (present : n ≠ 0) : ∃ m shift : Nat,
    decreaseExponent n 0 (Format.binary64.targetExponent (totalExponent n 0)) = (m, -(shift : ℤ)) ∧
      m = n * 2 ^ shift ∧ 2 ^ 52 ≤ m ∧ shift ≤ 52 ∧ (n < 2 ^ 53 → m < 2 ^ 53) := by
  obtain ⟨low, high⟩ := (Nat.log2_eq_iff present).mp rfl
  have target : Format.binary64.targetExponent (totalExponent n 0) = n.log2 - 52 := by
    rw [targetExponent_eq]
    omega
  have shift : (0 - ((n.log2 : ℤ) - 52)).toNat = 52 - n.log2 := by omega
  refine ⟨n * 2 ^ (52 - n.log2), 52 - n.log2, ?_, rfl, ?_, Nat.sub_le _ _, fun short => ?_⟩
  · unfold decreaseExponent
    dsimp only
    rw [target, shift, Nat.shiftLeft_eq, Int.zero_sub]
  · calc 2 ^ 52 ≤ 2 ^ (n.log2 + (52 - n.log2)) := Nat.pow_le_pow_right (by decide) (by omega)
      _ = 2 ^ n.log2 * 2 ^ (52 - n.log2) := Nat.pow_add 2 _ _
      _ ≤ n * 2 ^ (52 - n.log2) := Nat.mul_le_mul_right _ low
  · have few : n.log2 < 53 := (Nat.log2_lt present).mpr short
    calc n * 2 ^ (52 - n.log2) < 2 ^ (n.log2 + 1) * 2 ^ (52 - n.log2) :=
          Nat.mul_lt_mul_of_pos_right high (Nat.two_pow_pos _)
      _ = 2 ^ 53 := by
          rw [← Nat.pow_add]
          congr 1
          omega

/-- A positive word is moved to the left and rounded. -/
theorem toModel_toFloat {n : UInt64} (positive : n ≠ 0) : ∃ shift : Nat,
    n.toFloat.toModel = Float.Model.pack
      (roundWithAccuracy Format.binary64 .positive (n.toNat * 2 ^ shift) (-(shift : ℤ)) .exact) ∧
      2 ^ 52 ≤ n.toNat * 2 ^ shift ∧ shift ≤ 52 ∧
      (n.toNat < 2 ^ 53 → n.toNat * 2 ^ shift < 2 ^ 53) := by
  have present : n.toNat ≠ 0 := fun zero => positive (UInt64.toNat_inj.mp zero)
  obtain ⟨m, shift, moved, rfl, long, few, short⟩ := decreaseExponent_word present
  have above : compare (n.toNat : ℤ) 0 = .gt := by
    rw [compare_gt_iff_gt]
    omega
  refine ⟨shift, ?_, long, few, short⟩
  show Float.Model.pack
    (Float.Model.UnpackedFloat.normalize Format.binary64 n.toNat 0 .positive) = _
  unfold Float.Model.UnpackedFloat.normalize
  rw [above]
  dsimp only
  unfold Float.Model.UnpackedFloat.round
  dsimp only
  rw [Int.toNat_natCast, moved]

/-- Moving a word to the left keeps what it stands for. -/
theorem moved_word (n shift : Nat) : ((n * 2 ^ shift : Nat) : ℚ) * 2 ^ (-shift : ℤ) = n := by
  rw [zpow_neg, zpow_natCast]
  push_cast
  exact mul_inv_cancel_right₀ (pow_ne_zero _ two_ne_zero) _

/-- A positive word has a float near it. -/
theorem isNear_toFloat {n : UInt64} (positive : n ≠ 0) : IsNear n.toFloat n.toNat := by
  obtain ⟨shift, made, long, few, _⟩ := toModel_toFloat positive
  have small : (n.toNat : ℚ) < overflow := by
    rw [← natCast_overflow]
    exact_mod_cast Nat.lt_trans n.toNat_lt (by decide +kernel)
  rw [← moved_word n.toNat shift] at small ⊢
  exact isNear_of_round .positive long (by omega) small made

/-- Powers of ten are rounded, also those that are looked up in a table. -/
theorem toModel_powerOfTen (k : Nat) :
    (Float.ofScientific 1 false k).toModel = Float.Model.ofScientific 1 k := by
  by_cases listed : k ≤ 22
  · exact (show ∀ k ≤ 22, (Float.ofScientific 1 false k).toModel = Float.Model.ofScientific 1 k by
      decide +kernel) k listed
  · unfold Float.ofScientific
    rw [dif_neg fun both => listed both.2]
    rfl

/-- A power of ten has a float near it, unless it is too large. -/
theorem isNear_powerOfTen {k : Nat} (few : k ≤ 308) :
    IsNear (Float.ofScientific 1 false k) (10 ^ k) := by
  have value : ((2 ^ 53 * 10 ^ k : Nat) : ℚ) * 2 ^ (-53 : ℤ) = 10 ^ k := by
    have inverse : (2 : ℚ) ^ 53 * 2 ^ (-53 : ℤ) = 1 := by norm_num
    push_cast
    linear_combination 10 ^ k * inverse
  have small : (10 : ℚ) ^ k < overflow := by
    have whole := (show ∀ k ≤ 308, 10 ^ k < (2 ^ 54 - 1) * 2 ^ 970 by decide +kernel) k few
    rw [← natCast_overflow]
    exact_mod_cast whole
  rw [← value] at small ⊢
  refine isNear_of_round (.positive * .positive) ?_ (by decide) small ?_
  · exact Nat.le_trans (by decide) (Nat.le_mul_of_pos_right _ (Nat.pow_pos (by decide)))
  · rw [toModel_powerOfTen]
    show Float.Model.pack (ofScientific Format.binary64 1 k) = _
    unfold ofScientific
    rw [dif_neg one_ne_zero, if_neg (show ¬ (k : ℤ) > 2 ^ 11 by omega),
      if_neg (show ¬ (k : ℤ) < -(2 ^ 11 + Nat.log2 1) by omega), if_pos (Int.natCast_nonneg k)]
    rfl

/-- A float near a magnitude of at least one has an exponent that is not too small. -/
theorem RoundsTo.exponent_ge {v : ℚ} {m : Nat} {e : ℤ} (near : RoundsTo v m e) (one : 1 ≤ v) :
    -52 ≤ e := by
  by_contra less
  have small : (2 : ℚ) ^ e ≤ 2 ^ (-53 : ℤ) := zpow_le_zpow_right₀ one_le_two (by omega)
  have part : (2 : ℚ) ^ 53 * 2 ^ (-53 : ℤ) = 1 := by norm_num
  linarith [near.above]

section Arithmetic

variable {x y : Float} {sign sign' : Sign} {m m' : Nat} {e e' : ℤ} {positive : 0 < m}
  {positive' : 0 < m'}

/-- The product of two floats is the rounded product of their significands. -/
theorem toModel_mul (unpacked : x.toModel.unpack = .finite sign m e positive)
    (unpacked' : y.toModel.unpack = .finite sign' m' e' positive') :
    (x * y).toModel = Float.Model.pack
      (roundWithAccuracy Format.binary64 (sign * sign') (m * m') (e + e') .exact) := by
  show Float.Model.pack (mul Format.binary64 x.toModel.unpack y.toModel.unpack) = _
  rw [unpacked, unpacked']
  rfl

/-- The quotient of two floats is the rounded quotient of their significands. -/
theorem toModel_div {q : Nat} {k : ℤ} {accuracy : Accuracy}
    (unpacked : x.toModel.unpack = .finite sign m e positive)
    (unpacked' : y.toModel.unpack = .finite sign' m' e' positive')
    (divided : divCore Format.binary64 m e m' e' = (q, k, accuracy)) :
    (x / y).toModel = Float.Model.pack
      (roundWithAccuracy Format.binary64 (sign / sign') q k accuracy) := by
  show Float.Model.pack
    (UnpackedFloat.div Format.binary64 x.toModel.unpack y.toModel.unpack) = _
  rw [unpacked, unpacked']
  unfold UnpackedFloat.div
  dsimp only
  rw [divided]

end Arithmetic

/-- A product is finite where the factors are near magnitudes whose product stays below the overflow
by some factor. -/
theorem isInf_mul {x y : Float} {v w : ℚ} (xNear : IsNear x v) (yNear : IsNear y w) (one : 1 ≤ v)
    (one' : 1 ≤ w) (small : v * w * (1 + 2 ^ (-53 : ℤ)) ^ 2 < overflow) :
    (x * y).isInf = false := by
  obtain ⟨s, m, e, positive, unpacked, near⟩ := xNear
  obtain ⟨s', m', e', positive', unpacked', near'⟩ := yNear
  have long : 2 ^ 52 ≤ m * m' := Nat.le_trans near.low (Nat.le_mul_of_pos_right m positive')
  have exponent := near.exponent_ge one
  have exponent' := near'.exponent_ge one'
  have bound : ((m * m' : Nat) : ℚ) * 2 ^ (e + e') < overflow :=
    calc ((m * m' : Nat) : ℚ) * 2 ^ (e + e') = (m * 2 ^ e) * (m' * 2 ^ e') := by
          rw [zpow_add₀ two_ne_zero]
          push_cast
          ring
      _ ≤ v * (1 + 2 ^ (-53 : ℤ)) * (w * (1 + 2 ^ (-53 : ℤ))) :=
        mul_le_mul near.near near'.near (by positivity) (by positivity)
      _ = v * w * (1 + 2 ^ (-53 : ℤ)) ^ 2 := by ring
      _ < overflow := small
  have made := toModel_mul unpacked unpacked'
  obtain ⟨_, _, _, _, finite, _⟩ := isNear_of_round _ long (by omega) bound made
  show (x * y).toModel.unpack.isInf = false
  rw [finite]
  rfl

end QualityGates.Number
