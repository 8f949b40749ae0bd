import QualityGates.Proofs.Number.Rounding

/-!
# Rounding within a bound

Rounding does not leave a bound that is a float itself, also where subnormal floats are left.
-/

namespace QualityGates.Number

open Float.Model (Format totalExponent UnpackedFloat)
open Float.Model.UnpackedFloat

/-! ## Parts of floats -/

/-- The significand and the exponent of a finite float: 53 bits unless the exponent is the least
one. -/
structure IsNormalized (m : Nat) (e : ℤ) : Prop where
  high : m < 2 ^ 53
  least : -1074 ≤ e
  most : e ≤ 971
  full : 2 ^ 52 ≤ m ∨ e = -1074

/-- The bit that is left out in front of a fraction. -/
theorem implicit_toNat (fraction : BitVec 52) :
    (1#1 ++ fraction).toNat = 2 ^ 52 + fraction.toNat := by
  rw [BitVec.toNat_append, Nat.shiftLeft_eq, Nat.mul_comm]
  exact (Nat.two_pow_add_eq_or_of_lt fraction.isLt 1).symm

/-- The parts of a finite float are normalized. -/
theorem isNormalized_of_unpack {f : Float.Model} {sign : Sign} {m : Nat} {e : ℤ} {positive : 0 < m}
    (unpacked : f.unpack = .finite sign m e positive) : IsNormalized m e := by
  have field : (@unpackExponent Format.binary64 f.toBits.toBitVec).toNat < 2 ^ 11 :=
    (@unpackExponent Format.binary64 f.toBits.toBitVec).isLt
  have fraction : (@unpackMantissa Format.binary64 f.toBits.toBitVec).toNat < 2 ^ 52 :=
    (@unpackMantissa Format.binary64 f.toBits.toBitVec).isLt
  change unpack Format.binary64 f.toBits.toBitVec = _ at unpacked
  unfold unpack at unpacked
  dsimp only at unpacked
  by_cases full : @unpackExponent Format.binary64 f.toBits.toBitVec = -1#_
  · rw [if_pos full] at unpacked
    by_cases zero : @unpackMantissa Format.binary64 f.toBits.toBitVec = 0#_
    · rw [if_pos zero] at unpacked
      cases unpacked
    · rw [if_neg zero] at unpacked
      cases unpacked
  · rw [if_neg full] at unpacked
    have notFull : (@unpackExponent Format.binary64 f.toBits.toBitVec).toNat ≠ 2047 :=
      fun same => full (BitVec.eq_of_toNat_eq same)
    by_cases subnormal : @unpackExponent Format.binary64 f.toBits.toBitVec = 0#_
    · rw [if_pos subnormal] at unpacked
      by_cases zero : @unpackMantissa Format.binary64 f.toBits.toBitVec = 0#_
      · rw [dif_pos zero] at unpacked
        cases unpacked
      · rw [dif_neg zero] at unpacked
        cases unpacked
        rw [subnormal]
        exact ⟨Nat.lt_trans fraction (by decide), by decide, by decide, .inr rfl⟩
    · rw [if_neg subnormal] at unpacked
      have present : (@unpackExponent Format.binary64 f.toBits.toBitVec).toNat ≠ 0 :=
        fun zero => subnormal (BitVec.eq_of_toNat_eq zero)
      cases unpacked
      have exponent : ((Format.binary64.exponentBias : ℤ) +
          Format.binary64.mantissaBitsWithoutImplicit) = 1075 := rfl
      rw [exponent]
      refine ⟨?_, by omega, by omega, .inl ?_⟩
      · show (1#1 ++ @unpackMantissa Format.binary64 f.toBits.toBitVec).toNat < 2 ^ 53
        rw [implicit_toNat]
        omega
      · show 2 ^ 52 ≤ (1#1 ++ @unpackMantissa Format.binary64 f.toBits.toBitVec).toNat
        rw [implicit_toNat]
        exact Nat.le_add_right _ _

/-- Packing a float with the least exponent keeps its magnitude. -/
theorem unpack_pack_subnormal (sign : Sign) {m : Nat} (positive : 0 < m) (short : m < 2 ^ 52) :
    ∃ sign', (Float.Model.pack (.finite sign m (-1074) positive)).unpack =
      .finite sign' m (-1074) positive := by
  have size : ¬ m.log2 + 1 = Format.binary64.mantissaBits := by
    have low := ((Nat.log2_eq_iff positive.ne').mp rfl).1
    intro full
    have long : m.log2 = 52 := Nat.succ.inj full
    rw [long] at low
    omega
  have fraction : (BitVec.ofNat 52 m).toNat = m := Nat.mod_eq_of_lt short
  have present : BitVec.ofNat 52 m ≠ 0#_ := by
    intro same
    have same' : (BitVec.ofNat 52 m).toNat = 0 := congrArg BitVec.toNat same
    omega
  have packed : pack Format.binary64 (.finite sign m (-1074) positive) =
      packComponents Format.binary64 sign (0#11) (BitVec.ofNat 52 m) := by
    unfold pack
    dsimp only
    rw [if_neg (by decide), if_neg size]
  refine ⟨Sign.ofBitVec
    (unpackSign (pack Format.binary64 (.finite sign m (-1074) positive))), ?_⟩
  show unpack Format.binary64 (pack Format.binary64 _) = _
  rw [packed]
  unfold unpack
  dsimp only
  rw [if_neg (by rw [unpackExponent_packComponents]; decide),
    if_pos (unpackExponent_packComponents ..),
    dif_neg (by rw [unpackMantissa_packComponents]; exact present)]
  refine finite_eq ?_ ?_
  · rw [unpackMantissa_packComponents]
    exact fraction
  · rw [unpackExponent_packComponents]
    rfl

/-- Packing a float with normalized parts keeps its magnitude. -/
theorem unpack_pack_of_isNormalized (sign : Sign) {m : Nat} {e : ℤ} (positive : 0 < m)
    (parts : IsNormalized m e) : ∃ sign', (Float.Model.pack (.finite sign m e positive)).unpack =
      .finite sign' m e positive := by
  by_cases long : 2 ^ 52 ≤ m
  · exact unpack_pack sign positive long parts.high parts.least parts.most
  · obtain rfl := parts.full.resolve_left long
    exact unpack_pack_subnormal sign positive (Nat.lt_of_not_le long)

/-! ## Rounding -/

/-- Whether a float is finite with a magnitude of at most a bound. -/
def AtMost (x : UnpackedFloat) (bound : ℚ) : Prop :=
  match x with
  | .zero _ => True
  | .finite _ m e _ => m * (2 : ℚ) ^ e ≤ bound
  | .infinity _ | .notANumber => False

/-- Aiming at an exponent leaves at most 53 bits, and fewer only at the least exponent. -/
theorem exists_shift {m : Nat} {e : ℤ} (present : 0 < m)
    (ready : e ≤ Format.binary64.targetExponent (totalExponent m e)) :
    ∃ s : Nat, Format.binary64.targetExponent (totalExponent m e) = e + s ∧ -1074 ≤ e + s ∧
      (m.log2 = 52 + s ∨ e + s = -1074 ∧ m / 2 ^ s < 2 ^ 52) := by
  rw [targetExponent_eq] at ready ⊢
  refine ⟨(max ((m.log2 : ℤ) + 1 + e - 53) (-1074) - e).toNat, by omega, by omega, ?_⟩
  rcases Int.lt_or_le ((m.log2 : ℤ) + 1 + e - 53) (-1074) with small | normal
  · right
    generalize shift : (max ((m.log2 : ℤ) + 1 + e - 53) (-1074) - e).toNat = s
    refine ⟨by omega, ?_⟩
    rw [Nat.div_lt_iff_lt_mul (Nat.two_pow_pos s), ← Nat.pow_add]
    calc m < 2 ^ (m.log2 + 1) := ((Nat.log2_eq_iff present.ne').mp rfl).2
      _ ≤ 2 ^ (52 + s) := Nat.pow_le_pow_right (by decide) (by omega)
  · exact .inl (by omega)

/-- The first bit of a mantissa is a lower bound on what it stands for. -/
theorem two_zpow_log2_le {m : Nat} (present : 0 < m) (e : ℤ) :
    (2 : ℚ) ^ ((m.log2 : ℤ) + e) ≤ m * 2 ^ e := by
  have low : ((2 ^ m.log2 : Nat) : ℚ) ≤ m := by
    exact_mod_cast ((Nat.log2_eq_iff present.ne').mp rfl).1
  rw [zpow_add₀ two_ne_zero, zpow_natCast]
  rw [Nat.cast_pow, Nat.cast_ofNat] at low
  exact mul_le_mul_of_nonneg_right low (by positivity)

/-- A bound that is a float has at least the exponent that is aimed at. -/
theorem target_le_of_within {m M : Nat} {e E : ℤ} (present : 0 < m) (high : M < 2 ^ 53)
    (least : -1074 ≤ E) (within : (m : ℚ) * 2 ^ e ≤ M * 2 ^ E) :
    Format.binary64.targetExponent (totalExponent m e) ≤ E := by
  rw [targetExponent_eq]
  refine max_le ?_ least
  by_contra above
  have high' : (M : ℚ) < 2 ^ (53 : ℤ) := by exact_mod_cast high
  have unit : (0 : ℚ) < 2 ^ E := by positivity
  have reached : (2 : ℚ) ^ (53 + E) < 2 ^ (53 + E) :=
    calc (2 : ℚ) ^ (53 + E) ≤ 2 ^ ((m.log2 : ℤ) + e) :=
          zpow_le_zpow_right₀ one_le_two (by omega)
      _ ≤ m * 2 ^ e := two_zpow_log2_le present e
      _ ≤ M * 2 ^ E := within
      _ < 2 ^ (53 : ℤ) * 2 ^ E := mul_lt_mul_of_pos_right high' unit
      _ = 2 ^ (53 + E) := (zpow_add₀ two_ne_zero _ _).symm
  exact lt_irrefl _ reached

/-- A rounded mantissa does not exceed a whole number of units that the mantissa does not exceed. -/
theorem rounded_le {m s n : Nat} (within : m ≤ n * 2 ^ s) : rounded m s ≤ n := by
  have half := (rounded_bounds m s).2.2
  have positive := Nat.two_pow_pos s
  by_contra above
  have more : (n + 1) * 2 ^ s ≤ rounded m s * 2 ^ s :=
    Nat.mul_le_mul_right _ (Nat.lt_of_not_le above)
  rw [Nat.add_mul, Nat.one_mul] at more
  omega

/-- A number below a power of two has no more bits, also where it is zero. -/
theorem log2_le_of_lt {n k : Nat} (below : n < 2 ^ (k + 1)) : n.log2 ≤ k := by
  rcases Nat.eq_zero_or_pos n with rfl | present
  · rw [Nat.log2_zero]
    exact Nat.zero_le k
  · exact Nat.le_of_lt_succ ((Nat.log2_lt present.ne').mpr below)

/-- Rounding shifts and rounds, and then shifts back a carry. -/
theorem roundWithAccuracy_eq (sign : Sign) {m : Nat} {e e' : ℤ} {accuracy : Accuracy}
    {shifted : ExtendedMantissa} {r : Nat}
    (first : shiftToTargetExponent Format.binary64 m e accuracy = (shifted, e'))
    (nearest : shifted.roundedMantissa = r) :
    roundWithAccuracy Format.binary64 sign m e accuracy =
      let last := shiftToTargetExponent Format.binary64 r e' .exact
      if present : last.1.mantissa = 0 then .zero sign
      else .finite sign last.1.mantissa last.2 (Nat.pos_of_ne_zero present) := by
  subst nearest
  unfold roundWithAccuracy
  rw [first]

/-- Rounding gives a zero, or a significand and an exponent that stand for the rounded mantissa. -/
theorem roundWithAccuracy_cases (sign : Sign) {m s : Nat} {e : ℤ} (least : -1074 ≤ e + s)
    (target : Format.binary64.targetExponent (totalExponent m e) = e + s)
    (size : m.log2 = 52 + s ∨ e + s = -1074 ∧ m / 2 ^ s < 2 ^ 52) :
    roundWithAccuracy Format.binary64 sign m e .exact = .zero sign ∨
    ∃ m' e' positive, roundWithAccuracy Format.binary64 sign m e .exact =
        .finite sign m' e' positive ∧ m' < 2 ^ 53 ∧ -1074 ≤ e' ∧ (2 ^ 52 ≤ m' ∨ e' = -1074) ∧
        (m' : ℚ) * 2 ^ e' = rounded m s * 2 ^ (e + s) := by
  obtain ⟨floor, ceiling, _⟩ := rounded_bounds m s
  have first := shiftToTargetExponent_of_target .exact target
  have fits : rounded m s ≤ 2 ^ 53 ∧ (2 ^ 52 ≤ rounded m s ∨ e + s = -1074) := by
    rcases size with long | ⟨lowest, short⟩
    · obtain ⟨low, high⟩ := quotient_bounds long
      exact ⟨by omega, .inl (by omega)⟩
    · exact ⟨by omega, .inr lowest⟩
  rw [roundWithAccuracy_eq sign first (show _ = rounded m s from rfl)]
  rcases Nat.lt_or_eq_of_le fits.1 with short | carries
  · have second : shiftToTargetExponent Format.binary64 (rounded m s) (e + s) .exact =
        (⟨rounded m s, false, false⟩, e + s) := by
      have bits := log2_le_of_lt short
      have here : Format.binary64.targetExponent (totalExponent (rounded m s) (e + s)) =
          e + s + (0 : Nat) := by
        rw [targetExponent_eq]
        rcases fits.2 with full | lowest
        · have size : (rounded m s).log2 = 52 := (Nat.log2_eq_iff (by omega)).mpr ⟨full, short⟩
          omega
        · omega
      rw [shiftToTargetExponent_of_target .exact here]
      exact Prod.ext rfl (add_zero _)
    rw [second]
    by_cases zero : rounded m s = 0
    · exact .inl (dif_pos zero)
    · exact .inr ⟨rounded m s, e + s, Nat.pos_of_ne_zero zero, dif_neg zero, short, least, fits.2,
        rfl⟩
  · rw [carries, shiftToTargetExponent_carry least]
    refine .inr ⟨2 ^ 52, e + s + 1, by decide, rfl, by decide, by omega, .inl (Nat.le_refl _), ?_⟩
    rw [zpow_add_one₀ two_ne_zero]
    push_cast
    ring

/-- Rounding to a bound that is a float stays within it. -/
theorem atMost_roundWithAccuracy (sign : Sign) {m M : Nat} {e E : ℤ} (present : 0 < m)
    (bound : IsNormalized M E)
    (ready : e ≤ Format.binary64.targetExponent (totalExponent m e))
    (within : (m : ℚ) * 2 ^ e ≤ M * 2 ^ E) :
    AtMost (Float.Model.pack (roundWithAccuracy Format.binary64 sign m e .exact)).unpack
      (M * 2 ^ E) := by
  obtain ⟨s, target, least, size⟩ := exists_shift present ready
  have reached := target_le_of_within present bound.high bound.least within
  rw [target] at reached
  obtain ⟨k, rfl⟩ : ∃ k : Nat, E = e + s + k := ⟨(E - (e + s)).toNat, by omega⟩
  have unit : (0 : ℚ) < 2 ^ e := by positivity
  -- In units of the exponent that is aimed at, the bound is a whole number.
  have whole : m ≤ M * 2 ^ k * 2 ^ s := by
    have scaled : (m : ℚ) * 2 ^ e ≤ (M * 2 ^ k * 2 ^ s) * 2 ^ e := by
      calc (m : ℚ) * 2 ^ e ≤ M * 2 ^ (e + s + k) := within
        _ = (M * 2 ^ k * 2 ^ s) * 2 ^ e := by
            rw [zpow_add₀ two_ne_zero, zpow_add₀ two_ne_zero, zpow_natCast, zpow_natCast]
            ring
    exact_mod_cast le_of_mul_le_mul_right scaled unit
  have bounded : ((rounded m s : Nat) : ℚ) ≤ M * 2 ^ k := by exact_mod_cast rounded_le whole
  have within' : (rounded m s : ℚ) * 2 ^ (e + s) ≤ M * 2 ^ (e + s + k) := by
    rw [zpow_add₀ two_ne_zero (e + s), zpow_natCast]
    calc (rounded m s : ℚ) * 2 ^ (e + s) ≤ M * 2 ^ k * 2 ^ (e + s) :=
          mul_le_mul_of_nonneg_right bounded (by positivity)
      _ = M * (2 ^ (e + s) * 2 ^ k) := by ring
  rcases roundWithAccuracy_cases sign least target size with
    zero | ⟨m', e', positive, finite, high, least', full, value⟩
  · have kept : (Float.Model.pack (.zero sign)).unpack = .zero sign := by
      cases sign <;> rfl
    rw [zero, kept]
    exact trivial
  · rw [← value] at within'
    have most : e' ≤ 971 := by
      rcases full with long | lowest
      · have reached' := target_le_of_within positive bound.high bound.least within'
        have size' : m'.log2 = 52 := (Nat.log2_eq_iff (by omega)).mpr ⟨long, high⟩
        rw [targetExponent_eq, size'] at reached'
        have most := bound.most
        omega
      · omega
    obtain ⟨sign', kept⟩ := unpack_pack_of_isNormalized sign positive ⟨high, least', most, full⟩
    rw [finite, kept]
    exact within'

/-- Bits that are put behind a mantissa count towards its size. -/
theorem log2_mul_two_pow {n : Nat} (present : n ≠ 0) (k : Nat) : (n * 2 ^ k).log2 = n.log2 + k := by
  obtain ⟨low, high⟩ := (Nat.log2_eq_iff present).mp rfl
  rw [Nat.log2_eq_iff (Nat.mul_ne_zero present (Nat.two_pow_pos k).ne')]
  refine ⟨?_, ?_⟩
  · rw [Nat.pow_add]
    exact Nat.mul_le_mul_right _ low
  · rw [Nat.add_right_comm, Nat.pow_add]
    exact Nat.mul_lt_mul_of_pos_right high (Nat.two_pow_pos k)

/-- Rounding from any exponent to a bound that is a float stays within it. -/
theorem atMost_round (sign : Sign) {m M : Nat} {e E : ℤ} (present : 0 < m)
    (bound : IsNormalized M E) (within : (m : ℚ) * 2 ^ e ≤ M * 2 ^ E) :
    AtMost (Float.Model.pack (UnpackedFloat.round Format.binary64 sign m e)).unpack
      (M * 2 ^ E) := by
  generalize target : Format.binary64.targetExponent (totalExponent m e) = t
  have same : totalExponent (m * 2 ^ (e - t).toNat) (e - (e - t).toNat) = totalExponent m e := by
    unfold totalExponent
    rw [log2_mul_two_pow present.ne']
    omega
  have opened : UnpackedFloat.round Format.binary64 sign m e =
      roundWithAccuracy Format.binary64 sign (m * 2 ^ (e - t).toNat) (e - (e - t).toNat)
        .exact := by
    unfold UnpackedFloat.round decreaseExponent
    dsimp only
    rw [target, Nat.shiftLeft_eq]
  rw [opened]
  refine atMost_roundWithAccuracy sign (Nat.mul_pos present (Nat.two_pow_pos _)) bound ?_ ?_
  · rw [same, target]
    omega
  · refine le_trans (le_of_eq ?_) within
    rw [zpow_sub₀ two_ne_zero, zpow_natCast, Nat.cast_mul, Nat.cast_pow, Nat.cast_ofNat, mul_assoc,
      ← mul_div_assoc, mul_div_cancel_left₀ _ (pow_ne_zero _ two_ne_zero)]

end QualityGates.Number
