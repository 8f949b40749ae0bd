import QualityGates.Threshold

/-!
# The order of floats

Floats that are not NaN are totally ordered, so of two of them one is the larger one. Every other
fact about scores only needs the kinds of floats that there are.
-/

namespace QualityGates.Number

open Float.Model (UnpackedFloat)

/-- A float is NaN, infinite or finite. -/
theorem isFinite_eq_false_iff (x : Float) :
    x.isFinite = false ↔ x.isNaN = true ∨ x.isInf = true := by
  show x.toModel.unpack.isFinite = false ↔
    x.toModel.unpack.isNaN = true ∨ x.toModel.unpack.isInf = true
  cases x.toModel.unpack with
  | notANumber => exact ⟨fun _ => .inl rfl, fun _ => rfl⟩
  | infinity => exact ⟨fun _ => .inr rfl, fun _ => rfl⟩
  | zero => exact ⟨nofun, fun h => h.elim nofun nofun⟩
  | finite => exact ⟨nofun, fun h => h.elim nofun nofun⟩

/-- Magnitudes compare by exponent and then by mantissa, and exchanging them turns that round. -/
private theorem magnitude_swap (e e' : Int) (m m' : Nat) :
    (compare e e').then (compare m m') = ((compare e' e).then (compare m' m)).swap := by
  rw [Ordering.swap_then, Std.OrientedOrd.eq_swap, Std.OrientedOrd.eq_swap (a := m)]

/-- Exchanging two floats turns their comparison round. -/
theorem compare_swap (x y : UnpackedFloat) : x.compare y = (y.compare x).map Ordering.swap := by
  cases x with
  | notANumber => cases y with
    | infinity s => cases s <;> rfl
    | finite s => cases s <;> rfl
    | _ => rfl
  | infinity s => cases y with
    | infinity s' => cases s <;> cases s' <;> rfl
    | finite s' => cases s <;> cases s' <;> rfl
    | _ => cases s <;> rfl
  | zero s => cases y with
    | infinity s' => cases s' <;> rfl
    | finite s' => cases s' <;> rfl
    | _ => rfl
  | finite s m e positive => cases y with
    | notANumber => cases s <;> rfl
    | infinity s' => cases s <;> cases s' <;> rfl
    | zero => cases s <;> rfl
    | finite s' m' e' positive' =>
      cases s <;> cases s'
      case positive.positive => exact congrArg some (magnitude_swap e e' m m')
      case negative.negative =>
        exact congrArg some (congrArg Ordering.swap (magnitude_swap e e' m m'))
      all_goals rfl

/-- Floats that are not NaN compare. -/
theorem compare_isSome {x y : UnpackedFloat} (hx : x.isNaN = false) (hy : y.isNaN = false) :
    (x.compare y).isSome = true := by
  cases x with
  | notANumber => cases hx
  | infinity s => cases y with
    | notANumber => cases hy
    | _ => cases s <;> rfl
  | zero s => cases y with
    | notANumber => cases hy
    | infinity s' => cases s' <;> rfl
    | zero => rfl
    | finite s' => cases s' <;> rfl
  | finite s => cases y with
    | notANumber => cases hy
    | infinity s' => cases s' <;> cases s <;> rfl
    | zero => cases s <;> rfl
    | finite s' => cases s <;> cases s' <;> rfl

/-- Floats are compared by what their bits stand for. -/
theorem le_iff {x y : Float} : x ≤ y ↔ x.toModel.unpack.le y.toModel.unpack = true := by
  show decide (x.toModel ≤ y.toModel) = true ↔ _
  exact decide_eq_true_iff

/-- Of two floats that are not NaN, one is at most the other. -/
theorem le_total {x y : Float} (hx : x.isNaN = false) (hy : y.isNaN = false) : x ≤ y ∨ y ≤ x := by
  have comparable := compare_isSome (x := x.toModel.unpack) (y := y.toModel.unpack) hx hy
  have swapped := compare_swap x.toModel.unpack y.toModel.unpack
  rw [le_iff, le_iff]
  unfold UnpackedFloat.le
  rw [swapped] at comparable ⊢
  cases compared : y.toModel.unpack.compare x.toModel.unpack with
  | none => rw [compared] at comparable; cases comparable
  | some order => cases order <;> simp

/-- A fraction is a finite float between zero and one. -/
theorem isFraction_iff {x : Float} : Thresholds.isFraction x = true ↔
    x.isFinite = true ∧ 0.0 ≤ x ∧ x ≤ 1.0 := by
  unfold Thresholds.isFraction
  rw [Bool.and_eq_true, Bool.and_eq_true, decide_eq_true_iff, decide_eq_true_iff, and_assoc]

/-- A fraction is a number. -/
theorem isNaN_of_isFraction {x : Float} (fraction : Thresholds.isFraction x = true) :
    x.isNaN = false := by
  obtain ⟨finite, _⟩ := isFraction_iff.mp fraction
  cases nan : x.isNaN with
  | false => rfl
  | true =>
    have infinite := (isFinite_eq_false_iff x).mpr (.inl nan)
    exact absurd (finite.symm.trans infinite) (by decide)

/-- The larger of two numbers is one of them, the second one where they compare equal, and at least
both. -/
theorem largerFloat_spec {x y : Float} (hx : x.isNaN = false) (hy : y.isNaN = false) :
    largerFloat x y = (if x ≤ y then y else x) ∧ x ≤ largerFloat x y ∧ y ≤ largerFloat x y := by
  have same : largerFloat x y = if x ≤ y then y else x := by
    unfold largerFloat
    rw [hx, Bool.false_or]
    by_cases below : x ≤ y <;> simp [below]
  refine ⟨same, ?_⟩
  rw [same]
  by_cases below : x ≤ y
  · rw [if_pos below]
    exact ⟨below, (le_total hy hy).elim id id⟩
  · rw [if_neg below]
    exact ⟨(le_total hx hx).elim id id, (le_total hx hy).resolve_left below⟩

end QualityGates.Number
