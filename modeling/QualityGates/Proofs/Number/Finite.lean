import QualityGates.Number.FloatText

/-!
# Finite floats

A float is finite unless the bits of its exponent are all set, and those are the floats that have a
text in structured reports.
-/

namespace QualityGates.Number

open Float.Model (UnpackedFloat Format)
open Float.Model.UnpackedFloat (unpack unpackExponent)

/-- The exponent field of a float, as its bits have it. -/
theorem unpackExponent_toNat (bits : BitVec 64) :
    (@unpackExponent Format.binary64 bits).toNat =
      bits.toNat / Nat.pow 2 52 % Nat.pow 2 11 := by
  unfold unpackExponent
  rw [BitVec.toNat_cast, BitVec.extractLsb_toNat, Nat.shiftRight_eq_div_pow]
  rfl

/-- Unpacked bits are a finite float unless all bits of the exponent are set. -/
theorem isFinite_unpack_iff (bits : BitVec 64) : (unpack Format.binary64 bits).isFinite = true ↔
    @unpackExponent Format.binary64 bits ≠ -1#_ := by
  unfold unpack
  dsimp only
  by_cases full : @unpackExponent Format.binary64 bits = -1#_
  · rw [if_pos full]
    refine ⟨fun finite => ?_, fun notFull => absurd full notFull⟩
    split at finite <;> cases finite
  · rw [if_neg full]
    refine ⟨fun _ => full, fun _ => ?_⟩
    by_cases subnormal : @unpackExponent Format.binary64 bits = 0#_
    · rw [if_pos subnormal]
      by_cases zero : @UnpackedFloat.unpackMantissa Format.binary64 bits = 0#_
      · rw [dif_pos zero]
        rfl
      · rw [dif_neg zero]
        rfl
    · rw [if_neg subnormal]
      rfl

/-- A float is finite unless its exponent field is full. -/
theorem isFinite_iff_field (x : Float) :
    x.isFinite = true ↔ x.toBits.toNat / Nat.pow 2 52 % Nat.pow 2 11 ≠ 2047 := by
  have field := unpackExponent_toNat x.toBits.toBitVec
  have full : @unpackExponent Format.binary64 x.toBits.toBitVec = -1#_ ↔
      x.toBits.toNat / Nat.pow 2 52 % Nat.pow 2 11 = 2047 := by
    rw [← BitVec.toNat_inj, field]
    rfl
  show (unpack Format.binary64 x.toBits.toBitVec).isFinite = true ↔ _
  rw [isFinite_unpack_iff, ne_eq, ne_eq, full]

/-- The bits of a finite float stand for an exact value. -/
theorem isFinite_iff_ofFloat (x : Float) : x.isFinite = true ↔
    ∃ negative significand exponent,
      Binary64.ofFloat x = .finite negative significand exponent := by
  rw [isFinite_iff_field]
  unfold Binary64.ofFloat
  dsimp only
  generalize x.toBits.toNat / Nat.pow 2 52 % Nat.pow 2 11 = field
  by_cases full : field = 2047
  · rw [if_pos full]
    refine ⟨fun notFull => absurd full notFull, ?_⟩
    rintro ⟨negative, significand, exponent, same⟩
    split at same <;> cases same
  · rw [if_neg full]
    refine ⟨fun _ => ?_, fun _ => full⟩
    by_cases subnormal : field = 0
    · exact ⟨_, _, _, if_pos subnormal⟩
    · exact ⟨_, _, _, if_neg subnormal⟩

/-- Finite floats are those that have a text in structured reports. -/
theorem reportText?_isSome_iff (x : Float) :
    (reportText? x).isSome = true ↔ x.isFinite = true := by
  rw [isFinite_iff_ofFloat]
  unfold reportText?
  cases Binary64.ofFloat x with
  | nan => exact ⟨nofun, nofun⟩
  | infinite negative => exact ⟨nofun, nofun⟩
  | finite negative significand exponent =>
    refine ⟨fun _ => ⟨_, _, _, rfl⟩, fun _ => ?_⟩
    dsimp only
    split <;> rfl

end QualityGates.Number
