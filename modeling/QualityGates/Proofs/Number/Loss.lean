import QualityGates.Proofs.Number.Bounded
import QualityGates.Proofs.Number.Finite
import QualityGates.Proofs.Number.Order

/-!
# Relative losses

The difference of two floats that are not negative is at most the larger one, a product with a
factor of at most one is at most the other factor, and dividing by something as large gives a finite
quotient. So what a score lost, relative to the recorded one, is finite unless the current one is
negative.
-/

namespace QualityGates.Number

open Float.Model (Format totalExponent UnpackedFloat)
open Float.Model.UnpackedFloat

/-! ## Floats that are not negative -/

/-- A finite float is a zero or has a significand. -/
theorem finite_cases {x : UnpackedFloat} (finite : x.isFinite = true) :
    (∃ s, x = .zero s) ∨ ∃ s m e positive, x = .finite s m e positive := by
  cases x with
  | notANumber => cases finite
  | infinity s => cases finite
  | zero s => exact .inl ⟨s, rfl⟩
  | finite s m e positive => exact .inr ⟨s, m, e, positive, rfl⟩

/-- A float within a bound is a zero or has a magnitude within it. -/
theorem AtMost.cases {x : UnpackedFloat} {bound : ℚ} (within : AtMost x bound) :
    (∃ s, x = .zero s) ∨
      ∃ s m e positive, x = .finite s m e positive ∧ m * (2 : ℚ) ^ e ≤ bound := by
  cases x with
  | notANumber => cases within
  | infinity s => cases within
  | zero s => exact .inl ⟨s, rfl⟩
  | finite s m e positive => exact .inr ⟨s, m, e, positive, rfl, within⟩

/-- Whether a float is not negative and has a magnitude. -/
def Measures (x : UnpackedFloat) (v : ℚ) : Prop :=
  match x with
  | .zero _ => v = 0
  | .finite .positive m e _ => v = m * (2 : ℚ) ^ e
  | _ => False

/-- A float with a magnitude is a zero or positive. -/
theorem Measures.cases {x : UnpackedFloat} {v : ℚ} (measured : Measures x v) :
    (∃ s, x = .zero s ∧ v = 0) ∨
      ∃ m e positive, x = .finite .positive m e positive ∧ v = m * (2 : ℚ) ^ e := by
  cases x with
  | zero s => exact .inl ⟨s, rfl, measured⟩
  | finite s m e positive =>
    cases s with
    | positive => exact .inr ⟨m, e, positive, rfl, measured⟩
    | negative => cases measured
  | infinity s => cases measured
  | notANumber => cases measured

/-- Floats are compared by what their bits stand for. -/
theorem lt_iff {x y : Float} : x < y ↔ x.toModel.unpack.lt y.toModel.unpack = true := by
  show decide (x.toModel < y.toModel) = true ↔ _
  exact decide_eq_true_iff

/-- The smaller one of two floats is at most the other. -/
theorem le_of_lt {x y : UnpackedFloat} (less : x.lt y = true) : x.le y = true := by
  unfold UnpackedFloat.lt at less
  unfold UnpackedFloat.le
  rw [eq_of_beq less]
  rfl

/-- A finite float from zero on has a magnitude. -/
theorem exists_measures {x : Float} (finite : x.isFinite = true) (low : 0.0 ≤ x) :
    ∃ v, Measures x.toModel.unpack v := by
  have zero : (0.0 : Float).toModel.unpack = .zero .positive := rfl
  rw [le_iff, zero] at low
  obtain ⟨s, unpacked⟩ | ⟨s, m, e, positive, unpacked⟩ := finite_cases finite
  · rw [unpacked]
    exact ⟨0, rfl⟩
  · rw [unpacked] at low ⊢
    cases s with
    | negative => cases low
    | positive => exact ⟨_, rfl⟩

/-- A finite float above zero has a significand and an exponent. -/
theorem exists_positive {x : Float} (finite : x.isFinite = true) (above : ¬ x ≤ 0.0) :
    ∃ m e positive, x.toModel.unpack = .finite .positive m e positive := by
  have zero : (0.0 : Float).toModel.unpack = .zero .positive := rfl
  rw [le_iff, zero] at above
  obtain ⟨s, unpacked⟩ | ⟨s, m, e, positive, unpacked⟩ := finite_cases finite
  · rw [unpacked] at above
    exact absurd rfl above
  · rw [unpacked] at above ⊢
    cases s with
    | negative => exact absurd rfl above
    | positive => exact ⟨m, e, positive, rfl⟩

/-- Parts that compare the same way as magnitudes: the exponent first, then the significand. -/
theorem magnitude_le {m m' : Nat} {e e' : ℤ} (parts : IsNormalized m e)
    (parts' : IsNormalized m' e')
    (below : (compare e e').then (compare m m') ≠ .gt) : (m : ℚ) * 2 ^ e ≤ m' * 2 ^ e' := by
  have unit : (0 : ℚ) < 2 ^ e := by positivity
  rcases Int.lt_trichotomy e e' with less | rfl | more
  · have full : 2 ^ 52 ≤ m' := parts'.full.resolve_right (by have := parts.least; omega)
    have high : (m : ℚ) ≤ 2 ^ 53 := by exact_mod_cast parts.high.le
    have low : (2 : ℚ) ^ 52 ≤ m' := by exact_mod_cast full
    calc (m : ℚ) * 2 ^ e ≤ 2 ^ 53 * 2 ^ e := mul_le_mul_of_nonneg_right high unit.le
      _ = 2 ^ 52 * 2 ^ (e + 1) := by
          rw [zpow_add_one₀ two_ne_zero]
          ring
      _ ≤ 2 ^ 52 * 2 ^ e' := by
          have grown : (2 : ℚ) ^ (e + 1) ≤ 2 ^ e' := zpow_le_zpow_right₀ one_le_two less
          exact mul_le_mul_of_nonneg_left grown (by positivity)
      _ ≤ m' * 2 ^ e' := mul_le_mul_of_nonneg_right low (by positivity)
  · rw [compare_eq_iff_eq.mpr rfl] at below
    have le : m ≤ m' := compare_le_iff_le.mp below
    have le' : (m : ℚ) ≤ m' := by exact_mod_cast le
    exact mul_le_mul_of_nonneg_right le' unit.le
  · rw [compare_gt_iff_gt.mpr more] at below
    exact absurd rfl below

/-- A float that is not negative is within a bound that no larger float exceeds. -/
theorem le_of_le_of_atMost {x y : Float} {v bound : ℚ} (measured : Measures x.toModel.unpack v)
    (below : x.toModel.unpack.le y.toModel.unpack = true) (within : AtMost y.toModel.unpack bound)
    (low : 0 ≤ bound) : v ≤ bound := by
  obtain ⟨s, _, rfl⟩ | ⟨m, e, positive, unpacked, rfl⟩ := measured.cases
  · exact low
  · rw [unpacked] at below
    obtain ⟨s', unpacked'⟩ | ⟨s', m', e', positive', unpacked', within'⟩ := within.cases
    · rw [unpacked'] at below
      cases below
    · rw [unpacked'] at below
      cases s' with
      | negative => cases below
      | positive =>
        have order : ((compare e e').then (compare m m')).isLE = true := below
        refine le_trans (magnitude_le (isNormalized_of_unpack unpacked)
          (isNormalized_of_unpack unpacked') ?_) within'
        intro above
        rw [above] at order
        cases order

/-! ## Differences and products -/

/-- A float is at most its magnitude. -/
theorem Measures.atMost {x : UnpackedFloat} {v : ℚ} (measured : Measures x v) : AtMost x v := by
  obtain ⟨s, rfl, _⟩ | ⟨m, e, positive, rfl, rfl⟩ := measured.cases
  · exact trivial
  · exact le_refl _

/-- Packing a zero keeps it. -/
theorem unpack_pack_zero (sign : Sign) :
    (Float.Model.pack (.zero sign)).unpack = .zero sign := by
  cases sign <;> rfl

/-- A difference of two mantissas is rounded to at most the first one, which is not the smaller
one. -/
theorem atMost_normalize {M m m' : Nat} {E e : ℤ} (bound : IsNormalized M E)
    (whole : (m : ℚ) * 2 ^ e = M * 2 ^ E) (below : m' ≤ m) :
    AtMost (Float.Model.pack
      (UnpackedFloat.normalize Format.binary64 ((m : ℤ) - m') e .positive)).unpack (M * 2 ^ E) := by
  unfold UnpackedFloat.normalize
  rcases Nat.lt_or_eq_of_le below with less | rfl
  · have above : compare ((m : ℤ) - m') 0 = .gt := by
      rw [compare_gt_iff_gt]
      omega
    have difference : ((m : ℤ) - m').toNat = m - m' := by omega
    rw [above]
    dsimp only
    rw [difference]
    refine atMost_round .positive (by omega) bound (le_trans ?_ (le_of_eq whole))
    have fewer : ((m - m' : Nat) : ℚ) ≤ m := by exact_mod_cast Nat.sub_le m m'
    exact mul_le_mul_of_nonneg_right fewer (by positivity)
  · rw [sub_self, compare_eq_iff_eq.mpr rfl]
    dsimp only
    rw [unpack_pack_zero]
    exact trivial

/-- Moving a mantissa to a smaller exponent keeps what it stands for. -/
theorem shiftLeft_units {m : Nat} {e t : ℤ} (below : t ≤ e) :
    ((m <<< (e - t).toNat : Nat) : ℚ) * 2 ^ t = m * 2 ^ e := by
  obtain ⟨k, rfl⟩ : ∃ k : Nat, e = t + k := ⟨(e - t).toNat, by omega⟩
  rw [add_sub_cancel_left, Int.toNat_natCast, Nat.shiftLeft_eq, zpow_add₀ two_ne_zero, zpow_natCast]
  push_cast
  ring

/-- The difference of two floats is at most the larger one, where that comes first and none is
negative. -/
theorem atMost_sub {x y : Float} {v w : ℚ} (measured : Measures x.toModel.unpack v)
    (measured' : Measures y.toModel.unpack w) (below : w ≤ v) :
    AtMost (x - y).toModel.unpack v := by
  show AtMost (Float.Model.pack
    (UnpackedFloat.sub Format.binary64 x.toModel.unpack y.toModel.unpack)).unpack v
  obtain ⟨s, unpacked, rfl⟩ | ⟨m, e, positive, unpacked, rfl⟩ := measured.cases <;>
    obtain ⟨s', unpacked', rfl⟩ | ⟨m', e', positive', unpacked', rfl⟩ := measured'.cases <;>
    rw [unpacked, unpacked']
  · cases s <;> cases s' <;> exact trivial
  · have present : (0 : ℚ) < m' * 2 ^ e' := mul_pos (by exact_mod_cast positive') (by positivity)
    exact absurd present (not_lt.mpr below)
  · obtain ⟨_, kept⟩ :=
      unpack_pack_of_isNormalized .positive positive (isNormalized_of_unpack unpacked)
    show AtMost (Float.Model.pack (.finite .positive m e positive)).unpack _
    rw [kept]
    exact le_refl _
  · -- Both mantissas are moved to the smaller exponent.
    have unit : (0 : ℚ) < 2 ^ min e e' := by positivity
    have whole := shiftLeft_units (m := m) (min_le_left e e')
    have whole' := shiftLeft_units (m := m') (min_le_right e e')
    refine atMost_normalize (isNormalized_of_unpack unpacked) whole ?_
    rw [← whole, ← whole'] at below
    exact_mod_cast le_of_mul_le_mul_right below unit

/-- The product with a float of at most one is at most the other factor. -/
theorem atMost_mul {x y : Float} {m : Nat} {e : ℤ} {positive : 0 < m}
    (unpacked : x.toModel.unpack = .finite .positive m e positive)
    (small : AtMost y.toModel.unpack 1) : AtMost (x * y).toModel.unpack (m * 2 ^ e) := by
  obtain ⟨s, unpacked'⟩ | ⟨s, m', e', positive', unpacked', few⟩ := small.cases
  · have product : UnpackedFloat.mul Format.binary64 (.finite .positive m e positive) (.zero s) =
        .zero (.positive * s) := rfl
    show AtMost (Float.Model.pack
      (UnpackedFloat.mul Format.binary64 x.toModel.unpack y.toModel.unpack)).unpack _
    rw [unpacked, unpacked', product, unpack_pack_zero]
    exact trivial
  · have parts := isNormalized_of_unpack unpacked
    have parts' := isNormalized_of_unpack unpacked'
    have present := Nat.mul_pos positive positive'
    have unit : (0 : ℚ) ≤ m * 2 ^ e := by positivity
    rw [toModel_mul unpacked unpacked']
    refine atMost_roundWithAccuracy _ present parts ?_ ?_
    · rw [targetExponent_eq]
      -- The product has 53 bits if a factor has them, and else both have the least exponent.
      have long : 2 ^ 52 ≤ m ∨ 2 ^ 52 ≤ m' → 52 ≤ (m * m').log2 := fun full =>
        (Nat.le_log2 present.ne').mpr (full.elim
          (fun full => Nat.le_trans full (Nat.le_mul_of_pos_right m positive'))
          (fun full => Nat.le_trans full (Nat.le_mul_of_pos_left m' positive)))
      have full := parts.full
      have full' := parts'.full
      omega
    · calc ((m * m' : Nat) : ℚ) * 2 ^ (e + e') = (m * 2 ^ e) * (m' * 2 ^ e') := by
            rw [zpow_add₀ two_ne_zero]
            push_cast
            ring
        _ ≤ (m * 2 ^ e) * 1 := mul_le_mul_of_nonneg_left few unit
        _ = m * 2 ^ e := mul_one _

/-! ## Quotients -/

/-- A magnitude that does not exceed another one does not have more bits before the point. -/
theorem totalExponent_le {m m' : Nat} {e e' : ℤ} (present : 0 < m) (present' : 0 < m')
    (below : (m : ℚ) * 2 ^ e ≤ m' * 2 ^ e') : totalExponent m e ≤ totalExponent m' e' := by
  have high : (m' : ℚ) < 2 ^ (m'.log2 + 1) := by
    exact_mod_cast ((Nat.log2_eq_iff present'.ne').mp rfl).2
  have unit : (0 : ℚ) < 2 ^ e' := by positivity
  have reached : (2 : ℚ) ^ ((m.log2 : ℤ) + e) < 2 ^ ((m'.log2 : ℤ) + 1 + e') :=
    calc (2 : ℚ) ^ ((m.log2 : ℤ) + e) ≤ m * 2 ^ e := two_zpow_log2_le present e
      _ ≤ m' * 2 ^ e' := below
      _ < 2 ^ (m'.log2 + 1) * 2 ^ e' := mul_lt_mul_of_pos_right high unit
      _ = 2 ^ ((m'.log2 : ℤ) + 1 + e') := by
          rw [zpow_add₀ two_ne_zero, ← Nat.cast_succ, zpow_natCast]
  have less := (zpow_lt_zpow_iff_right₀ one_lt_two).mp reached
  unfold totalExponent
  omega

/-- Dividing a magnitude by one that is not smaller gives a quotient of at most one, with all its
bits behind the point. -/
theorem divCore_le {m m' : Nat} {e e' : ℤ} (present : 0 < m) (present' : 0 < m')
    (below : (m : ℚ) * 2 ^ e ≤ m' * 2 ^ e') :
    ∃ (k n : Nat) (accuracy : Accuracy),
      divCore Format.binary64 m e m' e' = (n, -(k : ℤ), accuracy) ∧ 53 ≤ k ∧ n ≤ 2 ^ k := by
  have bits := totalExponent_le present present' below
  unfold divCore
  dsimp only
  generalize target :
    min (e - e') (Format.binary64.targetExponent (totalExponent m e - totalExponent m' e')) = t
  have small : t ≤ -53 := by
    have aimed : Format.binary64.targetExponent (totalExponent m e - totalExponent m' e') =
      max (totalExponent m e - totalExponent m' e' - 53) (-1074) := rfl
    omega
  obtain ⟨k, rfl⟩ : ∃ k : Nat, t = -(k : ℤ) := ⟨(-t).toNat, by omega⟩
  refine ⟨k, _, _, rfl, by omega, Nat.div_le_of_le_mul ?_⟩
  have units := shiftLeft_units (m := m) (e := e - e') (t := -(k : ℤ)) (by omega)
  generalize m <<< (e - e' - -(k : ℤ)).toNat = moved at units ⊢
  have unit : (0 : ℚ) < 2 ^ (-(k : ℤ)) := by positivity
  have quotient : (m : ℚ) * 2 ^ (e - e') ≤ m' := by
    rw [zpow_sub₀ two_ne_zero, ← mul_div_assoc]
    exact (div_le_iff₀ (by positivity)).mpr below
  have inverse : (2 : ℚ) ^ k * 2 ^ (-(k : ℤ)) = 1 := by
    rw [zpow_neg, zpow_natCast, mul_inv_cancel₀ (pow_ne_zero _ two_ne_zero)]
  have scaled : (moved : ℚ) * 2 ^ (-(k : ℤ)) ≤ (m' * 2 ^ k) * 2 ^ (-(k : ℤ)) := by
    rw [units, mul_assoc, inverse, mul_one]
    exact quotient
  exact_mod_cast le_of_mul_le_mul_right scaled unit

/-- The exponent that shifting leaves. -/
theorem shiftToTargetExponent_snd (m : Nat) (e : ℤ) (accuracy : Accuracy) :
    (shiftToTargetExponent Format.binary64 m e accuracy).2 =
      max e (max (m.log2 + 1 + e - 53) (-1074)) := by
  unfold shiftToTargetExponent shiftToExponent
  rw [targetExponent_eq]
  dsimp only
  omega

/-- Rounding at most one gives a small exponent, or a zero. -/
theorem roundWithAccuracy_small (sign : Sign) {k n : Nat} (accuracy : Accuracy) (bits : 53 ≤ k)
    (small : n ≤ 2 ^ k) :
    roundWithAccuracy Format.binary64 sign n (-(k : ℤ)) accuracy = .zero sign ∨
    ∃ m e positive, roundWithAccuracy Format.binary64 sign n (-(k : ℤ)) accuracy =
      .finite sign m e positive ∧ e ≤ -51 := by
  have size : n.log2 ≤ k :=
    log2_le_of_lt (Nat.lt_of_le_of_lt small (Nat.pow_lt_pow_right (by decide) (Nat.lt_succ_self k)))
  obtain ⟨s, few, first⟩ : ∃ s : Nat, s ≤ k - 52 ∧
      shiftToTargetExponent Format.binary64 n (-(k : ℤ)) accuracy =
        (ExtendedMantissa.ofMantissaAndAccuracy n accuracy >>> s, -(k : ℤ) + s) := by
    refine ⟨_, ?_, rfl⟩
    rw [targetExponent_eq]
    omega
  rw [roundWithAccuracy_eq sign first rfl]
  have mantissa : (ExtendedMantissa.ofMantissaAndAccuracy n accuracy >>> s).roundedMantissa ≤
      2 ^ (k - s) + 1 := by
    have quotient : n / 2 ^ s ≤ 2 ^ (k - s) := by
      refine Nat.div_le_of_le_mul ?_
      rwa [← Nat.pow_add, Nat.add_sub_cancel' (by omega)]
    have above := (roundedMantissa_bounds n s accuracy).2
    omega
  generalize (ExtendedMantissa.ofMantissaAndAccuracy n accuracy >>> s).roundedMantissa = r
    at mantissa ⊢
  have size' : r.log2 ≤ k - s + 1 := by
    have grown := Nat.two_pow_pos (k - s)
    refine log2_le_of_lt ?_
    rw [Nat.pow_succ, Nat.pow_succ]
    omega
  by_cases absent :
      (shiftToTargetExponent Format.binary64 r (-(k : ℤ) + s) .exact).1.mantissa = 0
  · exact .inl (dif_pos absent)
  · refine .inr ⟨_, _, Nat.pos_of_ne_zero absent, dif_neg absent, ?_⟩
    rw [shiftToTargetExponent_snd]
    omega

/-- Packing a float whose exponent is not too large gives a finite one. -/
theorem isFinite_pack (sign : Sign) {m : Nat} {e : ℤ} (positive : 0 < m) (most : e ≤ 971) :
    (Float.Model.pack (.finite sign m e positive)).unpack.isFinite = true := by
  have notFull : ∀ field : BitVec 11, field.toNat < 2047 → field ≠ -1#_ := by
    rintro field less rfl
    exact absurd less (by decide)
  obtain ⟨field, fraction, less, packed⟩ : ∃ (field : BitVec 11) (fraction : BitVec 52),
      field.toNat < 2047 ∧ pack Format.binary64 (.finite sign m e positive) =
        packComponents Format.binary64 sign field fraction := by
    have biased : (e + Format.binary64.exponentBias +
        Format.binary64.mantissaBitsWithoutImplicit).toNat = (e + 1075).toNat :=
      congrArg Int.toNat (Int.add_assoc e 1023 52)
    unfold pack
    dsimp only
    rw [biased, if_neg (show ¬ 2 ^ 11 ≤ (e + 1075).toNat + 1 by omega)]
    split
    · refine ⟨BitVec.ofNat 11 (e + 1075).toNat, _, ?_, rfl⟩
      rw [BitVec.toNat_ofNat]
      exact Nat.lt_of_le_of_lt (Nat.mod_le _ _) (by omega)
    · exact ⟨0#11, _, by decide, rfl⟩
  show (unpack Format.binary64 (pack Format.binary64 _)).isFinite = true
  rw [packed, isFinite_unpack_iff, unpackExponent_packComponents]
  exact notFull field less

/-- Dividing by a float gives a finite quotient for everything that is at most as large. -/
theorem isFinite_div {x y : Float} {m : Nat} {e : ℤ} {positive : 0 < m}
    (unpacked : x.toModel.unpack = .finite .positive m e positive)
    (small : AtMost y.toModel.unpack (m * 2 ^ e)) : (y / x).isFinite = true := by
  obtain ⟨s, unpacked'⟩ | ⟨s, m', e', positive', unpacked', within⟩ := small.cases
  · have quotient : UnpackedFloat.div Format.binary64 (.zero s) (.finite .positive m e positive) =
        .zero (s / .positive) := rfl
    show (Float.Model.pack
      (UnpackedFloat.div Format.binary64 y.toModel.unpack x.toModel.unpack)).unpack.isFinite = true
    rw [unpacked, unpacked', quotient, unpack_pack_zero]
    rfl
  · obtain ⟨k, n, accuracy, divided, bits, few⟩ := divCore_le positive' positive within
    show (y / x).toModel.unpack.isFinite = true
    rw [toModel_div unpacked' unpacked divided]
    rcases roundWithAccuracy_small (s / .positive) accuracy bits few with
      zero | ⟨m'', e'', positive'', finite, most⟩
    · rw [zero, unpack_pack_zero]
      rfl
    · rw [finite]
      exact isFinite_pack _ positive'' (by omega)

/-! ## Losses -/

/-- What a score lost, relative to the recorded one, is finite where the current score is not
negative and misses the recorded one by some fraction. -/
theorem isFinite_loss {recorded current allowed : Float} (finite : recorded.isFinite = true)
    (above : ¬ recorded ≤ 0.0) (finite' : current.isFinite = true) (low : 0.0 ≤ current)
    (fraction : Thresholds.isFraction allowed = true)
    (missed : current < recorded * (1.0 - allowed)) :
    ((recorded - current) / recorded).isFinite = true := by
  have one : (1.0 : Float).toModel.unpack = .finite .positive (2 ^ 52) (-52) (by decide) := rfl
  have measured : Measures (1.0 : Float).toModel.unpack 1 := by
    rw [one]
    show (1 : ℚ) = (2 ^ 52 : Nat) * 2 ^ (-52 : ℤ)
    norm_num
  obtain ⟨allowedFinite, allowedLow, allowedHigh⟩ := isFraction_iff.mp fraction
  obtain ⟨w, allowedMeasures⟩ := exists_measures allowedFinite allowedLow
  obtain ⟨v, currentMeasures⟩ := exists_measures finite' low
  obtain ⟨m, e, positive, unpacked⟩ := exists_positive finite above
  have recordedMeasures : Measures recorded.toModel.unpack (m * 2 ^ e) := by
    rw [unpacked]
    exact rfl
  have kept : AtMost (1.0 - allowed).toModel.unpack 1 :=
    atMost_sub measured allowedMeasures
      (le_of_le_of_atMost allowedMeasures (le_iff.mp allowedHigh) measured.atMost zero_le_one)
  have least := atMost_mul unpacked kept
  have fewer : v ≤ m * 2 ^ e :=
    le_of_le_of_atMost currentMeasures (le_of_lt (lt_iff.mp missed)) least (by positivity)
  exact isFinite_div unpacked (atMost_sub recordedMeasures currentMeasures fewer)

end QualityGates.Number
