import QualityGates.Coverage.Class
import QualityGates.Proofs.Number.Precision

/-!
# What a percentage tells

A percentage is a rounded quotient times a hundred, rounded again. Of a class without missed lines
it tells nothing: it is 100 whatever was covered. With missed lines it tells the covered ones as
long as the exact shares of neighbouring counts are further apart than rounding moves them.
-/

namespace QualityGates.Coverage

open Float.Model (Format UnpackedFloat)
open Number (HasParts IsClose)

/-- Whether the percentage of a class tells its neighbours apart: something was missed, and the
square of all counted lines is at most `2 ^ 50` times that. -/
def IsResolved (missed covered : UInt64) : Prop :=
  0 < missed.toNat ∧ (missed.toNat + covered.toNat) ^ 2 ≤ missed.toNat * 2 ^ 50

instance (missed covered : UInt64) : Decidable (IsResolved missed covered) :=
  inferInstanceAs (Decidable (_ ∧ _))

variable {missed covered covered' : UInt64}

/-! ## Nothing missed -/

/-- Where nothing was missed, everything is covered. -/
theorem percent_of_none_missed (covered : UInt64) : coveragePercent 0 covered = 100.0 := by
  unfold coveragePercent
  dsimp only
  rw [UInt64.zero_add]
  by_cases empty : covered = 0
  · rw [if_pos empty]
  · obtain ⟨sign, m, e, positive, unpacked, near⟩ := Number.isNear_toFloat empty
    have parts : HasParts covered.toFloat m e := ⟨⟨sign, positive, unpacked⟩, near.low, near.high⟩
    have whole : (1.0 : Float) * 100.0 = 100.0 := by decide +kernel
    rw [if_neg empty, Number.div_self parts, whole]

/-! ## Something missed -/

/-- All counted lines fit in 50 bits where percentages are resolved. -/
theorem IsResolved.total_le (resolved : IsResolved missed covered) :
    missed.toNat + covered.toNat ≤ 2 ^ 50 := by
  obtain ⟨present, fine⟩ := resolved
  have grown : (missed.toNat + covered.toNat) * (missed.toNat + covered.toNat) ≤
      2 ^ 50 * (missed.toNat + covered.toNat) := by
    rw [← Nat.pow_two]
    calc (missed.toNat + covered.toNat) ^ 2 ≤ missed.toNat * 2 ^ 50 := fine
      _ ≤ (missed.toNat + covered.toNat) * 2 ^ 50 := Nat.mul_le_mul_right _ (Nat.le_add_right _ _)
      _ = 2 ^ 50 * (missed.toNat + covered.toNat) := Nat.mul_comm _ _
  exact Nat.le_of_mul_le_mul_right grown (by omega)

/-- Counts that are resolved are resolved with fewer covered lines. -/
theorem IsResolved.mono (resolved : IsResolved missed covered')
    (fewer : covered.toNat ≤ covered'.toNat) : IsResolved missed covered := by
  obtain ⟨present, fine⟩ := resolved
  refine ⟨present, Nat.le_trans (Nat.pow_le_pow_left ?_ 2) fine⟩
  omega

/-- The counted lines of resolved counts are the sum of both. -/
theorem IsResolved.toNat_total (resolved : IsResolved missed covered) :
    (missed + covered).toNat = missed.toNat + covered.toNat := by
  have few := resolved.total_le
  rw [UInt64.toNat_add]
  exact Nat.mod_eq_of_lt (by omega)

/-- Some lines are counted where percentages are resolved. -/
theorem IsResolved.total_ne_zero (resolved : IsResolved missed covered) : missed + covered ≠ 0 := by
  intro empty
  have total := resolved.toNat_total
  have missedAny := resolved.1
  rw [empty, UInt64.toNat_zero] at total
  omega

/-- The percentage of resolved counts is the quotient of two floats times a hundred. -/
theorem IsResolved.percent_eq (resolved : IsResolved missed covered) :
    coveragePercent missed covered = covered.toFloat / (missed + covered).toFloat * 100.0 := by
  unfold coveragePercent
  dsimp only
  rw [if_neg resolved.total_ne_zero]

/-- The float for a hundred. -/
theorem hundred_parts : HasParts 100.0 (100 * 2 ^ 46) (-46) :=
  ⟨⟨.positive, by decide, rfl⟩, by decide, by decide⟩

/-- The percentage of resolved counts is close to the exact one, up to two roundings. -/
theorem exists_parts_percent (resolved : IsResolved missed covered) (some : covered ≠ 0) :
    ∃ m e w, HasParts (coveragePercent missed covered) m e ∧
      IsClose w (covered.toNat / (missed.toNat + covered.toNat)) ∧
      IsClose (m * 2 ^ e) (w * 100) := by
  have total := resolved.toNat_total
  have few := resolved.total_le
  obtain ⟨m, e, parts, exact, least, most⟩ := Number.exists_parts_toFloat some (by omega)
  obtain ⟨m', e', parts', exact', least', most'⟩ :=
    Number.exists_parts_toFloat resolved.total_ne_zero (by omega)
  obtain ⟨n, k, quotient, close, above, below⟩ :=
    Number.exists_parts_div parts parts' (by omega) (by omega)
  obtain ⟨r, j, product, close'⟩ :=
    Number.exists_parts_mul quotient hundred_parts (by omega) (by omega)
  have hundred : ((100 * 2 ^ 46 : Nat) : ℚ) * 2 ^ (-46 : ℤ) = 100 := by norm_num
  rw [exact, exact', total, Nat.cast_add] at close
  rw [hundred] at close'
  rw [resolved.percent_eq]
  exact ⟨r, j, n * 2 ^ k, product, close, close'⟩

/-- The percentage of no covered line is zero. -/
theorem percent_of_none_covered (resolved : IsResolved missed 0) :
    ∃ sign, (coveragePercent missed 0).toModel.unpack = .zero sign := by
  have few := resolved.total_le
  have present : missed ≠ 0 := by
    rintro rfl
    exact Nat.lt_irrefl 0 resolved.1
  rw [UInt64.toNat_zero] at few
  obtain ⟨m, e, parts, -⟩ := Number.exists_parts_toFloat present (by omega)
  obtain ⟨sign, positive, unpacked⟩ := parts.unpacked
  have none : (0 : UInt64).toFloat.toModel.unpack = .zero .positive := rfl
  have quotient : ((0 : UInt64).toFloat / missed.toFloat).toModel =
      Float.Model.pack (.zero (.positive / sign)) := by
    show Float.Model.pack
      (UnpackedFloat.div Format.binary64 (0 : UInt64).toFloat.toModel.unpack
        missed.toFloat.toModel.unpack) = _
    rw [none, unpacked]
    rfl
  rw [resolved.percent_eq, UInt64.add_zero]
  show ∃ sign', (Float.Model.pack
    (UnpackedFloat.mul Format.binary64 ((0 : UInt64).toFloat / missed.toFloat).toModel.unpack
      (100.0 : Float).toModel.unpack)).unpack = .zero sign'
  rw [quotient]
  cases sign
  · exact ⟨_, rfl⟩
  · exact ⟨_, rfl⟩

/-- The exact shares of different counts are further apart than two roundings move each of them. -/
theorem shares_apart {m c d : ℚ} (fewer : c + 1 ≤ d) (first : 0 ≤ c) (missed : 1 ≤ m)
    (resolved : (m + d) ^ 2 ≤ m * 2 ^ 50) :
    c / (m + c) * (1 + 2 ^ (-52 : ℤ)) ^ 2 < d / (m + d) * (1 - 2 ^ (-52 : ℤ)) ^ 2 := by
  have unit : (2 : ℚ) ^ (-52 : ℤ) = 1 / 2 ^ 52 := by norm_num
  rw [div_mul_eq_mul_div, div_mul_eq_mul_div, div_lt_div_iff₀ (by linarith) (by linarith), unit]
  -- The cross products differ by `m` at least, and roundings move the lower one by less than that.
  have gap : m * (c + 1) ≤ m * d := mul_le_mul_of_nonneg_left fewer (by linarith)
  have cross : c * (m + d) + m ≤ d * (m + c) := by linarith
  have behind : c * (m + d) ≤ (m + d - 2) * (m + d) :=
    mul_le_mul_of_nonneg_right (by linarith) (by linarith)
  have size : c * (m + d) ≤ m * 2 ^ 50 - 2 * (m + d) := by linarith
  have moved : c * (m + d) * (1 + 1 / 2 ^ 52) ^ 2 <
      (c * (m + d) + m) * (1 - 1 / 2 ^ 52) ^ 2 := by linarith
  have kept : (c * (m + d) + m) * (1 - 1 / 2 ^ 52) ^ 2 ≤ d * (m + c) * (1 - 1 / 2 ^ 52) ^ 2 :=
    mul_le_mul_of_nonneg_right cross (by positivity)
  linarith

/-- Rounding a magnitude, taking a hundred times that and rounding again is off by two roundings. -/
theorem isClose_twice {v w z : ℚ} (near : IsClose w v) (close : IsClose z (w * 100)) :
    v * (1 - 2 ^ (-52 : ℤ)) ^ 2 * 100 ≤ z ∧ z ≤ v * (1 + 2 ^ (-52 : ℤ)) ^ 2 * 100 := by
  have up : (0 : ℚ) ≤ 1 + 2 ^ (-52 : ℤ) := by positivity
  have down : (0 : ℚ) ≤ 1 - 2 ^ (-52 : ℤ) := by norm_num
  constructor
  · calc v * (1 - 2 ^ (-52 : ℤ)) ^ 2 * 100
        = v * (1 - 2 ^ (-52 : ℤ)) * (1 - 2 ^ (-52 : ℤ)) * 100 := by ring
      _ ≤ w * (1 - 2 ^ (-52 : ℤ)) * 100 := by
        have least := mul_le_mul_of_nonneg_right near.least down
        linarith
      _ = w * 100 * (1 - 2 ^ (-52 : ℤ)) := by ring
      _ ≤ z := close.least
  · calc z ≤ w * 100 * (1 + 2 ^ (-52 : ℤ)) := close.most
      _ = w * (1 + 2 ^ (-52 : ℤ)) * 100 := by ring
      _ ≤ v * (1 + 2 ^ (-52 : ℤ)) * (1 + 2 ^ (-52 : ℤ)) * 100 := by
        have most := mul_le_mul_of_nonneg_right near.most up
        linarith
      _ = v * (1 + 2 ^ (-52 : ℤ)) ^ 2 * 100 := by ring

/-- More covered lines have another percentage where percentages are resolved. -/
theorem percent_ne_of_lt (resolved : IsResolved missed covered') (fewer : covered < covered') :
    coveragePercent missed covered ≠ coveragePercent missed covered' := by
  rw [UInt64.lt_iff_toNat_lt] at fewer
  have resolvedBoth : IsResolved missed covered := resolved.mono fewer.le
  have some' : covered' ≠ 0 := by
    rintro rfl
    exact Nat.not_lt_zero _ fewer
  obtain ⟨m', e', w', parts', near', close'⟩ := exists_parts_percent resolved some'
  intro same
  by_cases none : covered = 0
  · subst none
    obtain ⟨sign, zero⟩ := percent_of_none_covered resolvedBoth
    obtain ⟨sign', positive, unpacked⟩ := parts'.unpacked
    rw [← same, zero] at unpacked
    cases unpacked
  · obtain ⟨m, e, w, parts, near, close⟩ := exists_parts_percent resolvedBoth none
    rw [← same] at parts'
    obtain ⟨rfl, rfl⟩ := parts.unique parts'
    have apart := shares_apart (m := missed.toNat) (c := covered.toNat) (d := covered'.toNat)
      (by exact_mod_cast fewer) (by positivity) (by exact_mod_cast resolved.1)
      (by exact_mod_cast resolved.2)
    have below := (isClose_twice near close).2
    have above := (isClose_twice near' close').1
    linarith

/-- The percentage tells what was covered, where percentages are resolved. -/
theorem percent_inj (resolved : IsResolved missed covered)
    (resolved' : IsResolved missed covered') :
    coveragePercent missed covered = coveragePercent missed covered' ↔ covered = covered' := by
  refine ⟨fun same => ?_, congrArg _⟩
  have fewer : ¬ covered < covered' := fun less => percent_ne_of_lt resolved' less same
  have more : ¬ covered' < covered := fun less => percent_ne_of_lt resolved less same.symm
  rw [UInt64.lt_iff_toNat_lt] at fewer more
  exact UInt64.toNat_inj.mp (by omega)

/-- Percentages of larger counts may be rounded to the same float. -/
example : coveragePercent 1 67115957 = coveragePercent 1 67115958 := by decide +kernel

end QualityGates.Coverage
