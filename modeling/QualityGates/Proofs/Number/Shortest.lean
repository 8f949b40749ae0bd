import QualityGates.Number.Shortest
import QualityGates.Proofs.Number.Rounding

/-!
# Bounds on shortest decimals

The shortest decimal of a positive float is not zero and exceeds the float by half a unit in the
last place at most. So it is smaller than the overflow even after it has been rounded twice.
-/

namespace QualityGates.Number

namespace RoundingInterval

variable {r : RoundingInterval} {tie : Tie} {k : Int} {digits : Nat}

/-- What a bound of an interval is multiplied with to compare it with points of a grid. -/
def scale (r : RoundingInterval) (k : Int) : Nat :=
  2 ^ r.exponent.toNat * 10 ^ (-k).toNat

/-- What a point of a grid is multiplied with to compare it with the bounds of an interval. -/
def unit (r : RoundingInterval) (k : Int) : Nat :=
  10 ^ k.toNat * 2 ^ (-r.exponent).toNat

/-- Bounds are scaled up. -/
theorem scale_pos : 0 < r.scale k :=
  Nat.mul_pos (Nat.pow_pos (by decide)) (Nat.pow_pos (by decide))

/-- Points are scaled up. -/
theorem unit_pos : 0 < r.unit k :=
  Nat.mul_pos (Nat.pow_pos (by decide)) (Nat.pow_pos (by decide))

/-- Whether a point of a grid lies in an interval. -/
def holds (r : RoundingInterval) (k : Int) (point : Nat) : Bool :=
  if r.closed then
    r.low * r.scale k ≤ point * r.unit k && point * r.unit k ≤ r.high * r.scale k
  else r.low * r.scale k < point * r.unit k && point * r.unit k < r.high * r.scale k

/-- A point of a grid is only found in the interval. -/
theorem holds_of_onGrid? (found : r.onGrid? tie k = some digits) : r.holds k digits = true := by
  unfold onGrid? at found
  dsimp only at found
  split at found
  · rename_i below above
    split at found
    · cases found
      exact above
    · cases found
      exact below
  · rename_i below _
    cases found
    exact below
  · rename_i _ above
    cases found
    exact above
  · cases found

/-- A point in an interval does not lie outside its bounds. -/
theorem bounds_of_holds (inside : r.holds k digits = true) :
    r.low * r.scale k ≤ digits * r.unit k ∧ digits * r.unit k ≤ r.high * r.scale k := by
  unfold holds at inside
  split at inside
  · rw [Bool.and_eq_true, decide_eq_true_iff, decide_eq_true_iff] at inside
    exact inside
  · rw [Bool.and_eq_true, decide_eq_true_iff, decide_eq_true_iff] at inside
    exact ⟨Nat.le_of_lt inside.1, Nat.le_of_lt inside.2⟩

/-- Whether a decimal is positive and does not lie above an interval. -/
def Covers (r : RoundingInterval) (d : Decimal) : Prop :=
  0 < d.digits ∧ d.digits * r.unit d.exponent ≤ r.high * r.scale d.exponent

/-- A point of a grid that is found is not above the interval. -/
theorem covers_of_onGrid? (positive : 0 < r.low) (found : r.onGrid? tie k = some digits) :
    r.Covers ⟨digits, k⟩ := by
  obtain ⟨low, high⟩ := bounds_of_holds (holds_of_onGrid? found)
  refine ⟨Nat.pos_of_mul_pos_right (Nat.lt_of_lt_of_le ?_ low), high⟩
  exact Nat.mul_pos positive scale_pos

/-- The decimal that is found does not lie above the interval. It is positive if the middle of the
interval is not below the finest grid. -/
theorem covers_search {fuel : Nat} (positive : 0 < r.low) (ordered : r.middle ≤ r.high)
    (fine : r.unit (k - fuel) ≤ r.middle * r.scale (k - fuel)) :
    r.Covers (r.search tie fuel k) := by
  induction fuel generalizing k with
  | zero =>
    rw [Int.natCast_zero, Int.sub_zero] at fine
    have rest : r.search tie 0 k = ⟨r.middle * r.scale k / r.unit k, k⟩ := by
      unfold search scale unit
      rw [← Nat.mul_assoc]
      rfl
    rw [rest]
    exact ⟨Nat.div_pos fine unit_pos,
      Nat.le_trans (Nat.div_mul_le_self _ _) (Nat.mul_le_mul_right _ ordered)⟩
  | succ fuel ih =>
    unfold search
    cases found : r.onGrid? tie k with
    | some digits => exact covers_of_onGrid? positive found
    | none =>
      refine ih ?_
      rwa [show k - 1 - (fuel : Int) = k - (fuel + 1 : Nat) by omega]

/-- An integer power by its positive and its negative part. -/
theorem zpow_mul_toNat {b : ℚ} (positive : 0 < b) (k : Int) :
    b ^ k * b ^ (-k).toNat = b ^ k.toNat := by
  rw [← zpow_natCast, ← zpow_natCast, ← zpow_add₀ positive.ne']
  congr 1
  omega

/-- Scaling up compares a decimal with a binary fraction. -/
theorem mul_unit_le_iff {a b : Nat} :
    a * r.unit k ≤ b * r.scale k ↔ a * (10 : ℚ) ^ k ≤ b * 2 ^ r.exponent := by
  have tens := zpow_mul_toNat (b := 10) (by norm_num) k
  have twos := zpow_mul_toNat (b := 2) (by norm_num) r.exponent
  have factor : (0 : ℚ) < 10 ^ (-k).toNat * 2 ^ (-r.exponent).toNat := by positivity
  have left : ((a * r.unit k : Nat) : ℚ) =
      a * 10 ^ k * (10 ^ (-k).toNat * 2 ^ (-r.exponent).toNat) := by
    unfold unit
    push_cast
    rw [← tens]
    ring
  have right : ((b * r.scale k : Nat) : ℚ) =
      b * 2 ^ r.exponent * (10 ^ (-k).toNat * 2 ^ (-r.exponent).toNat) := by
    unfold scale
    push_cast
    rw [← twos]
    ring
  rw [← Nat.cast_le (α := ℚ), left, right, mul_le_mul_iff_left₀ factor]

end RoundingInterval

open RoundingInterval

/-- Powers of ten are compared with powers of two by `10 ^ 3 < 2 ^ 10` where they are large, and by
`2 ^ 33 < 10 ^ 10` where they are small. -/
theorem ten_zpow_le {k e : Int} (large : 10 * k ≤ 3 * e) (small : 33 * k ≤ 10 * e) :
    (10 : ℚ) ^ k ≤ 2 ^ e := by
  rcases Int.le_total 0 k with whole | part
  · have cubed : ((10 : ℚ) ^ k) ^ 3 ≤ (2 ^ e) ^ 3 :=
      calc ((10 : ℚ) ^ k) ^ 3 = (10 ^ 3) ^ k := by
            rw [← zpow_natCast, ← zpow_natCast, ← zpow_mul, ← zpow_mul, mul_comm]
        _ ≤ (2 ^ 10) ^ k := zpow_le_zpow_left₀ whole (by norm_num) (by norm_num)
        _ = 2 ^ (10 * k) := by rw [← zpow_natCast, ← zpow_mul]; rfl
        _ ≤ 2 ^ (3 * e) := zpow_le_zpow_right₀ one_le_two large
        _ = (2 ^ e) ^ 3 := by rw [← zpow_natCast, ← zpow_mul, mul_comm]; rfl
    exact le_of_pow_le_pow_left₀ (by decide) (by positivity) cubed
  · obtain ⟨n, rfl⟩ := Int.exists_eq_neg_ofNat part
    have tenth : ((10 : ℚ) ^ (-n : Int)) ^ 10 ≤ (2 ^ e) ^ 10 :=
      calc ((10 : ℚ) ^ (-n : Int)) ^ 10 = ((10 ^ 10) ^ n)⁻¹ := by
            rw [zpow_neg, zpow_natCast, inv_pow, ← pow_mul, ← pow_mul, mul_comm]
        _ ≤ ((2 ^ 33) ^ n)⁻¹ :=
          inv_anti₀ (by positivity) (pow_le_pow_left₀ (by norm_num) (by norm_num) n)
        _ = 2 ^ (33 * (-n : Int)) := by rw [← zpow_natCast, ← zpow_neg, zpow_mul]; rfl
        _ ≤ 2 ^ (10 * e) := zpow_le_zpow_right₀ one_le_two small
        _ = (2 ^ e) ^ 10 := by rw [← zpow_natCast, ← zpow_mul, mul_comm]; rfl
    exact le_of_pow_le_pow_left₀ (by decide) (by positivity) tenth

variable {m : Nat} {e : Int}

/-- The shortest decimal of a positive float is positive and does not lie above the middle between
the float and the next one. -/
theorem covers_shortest (tie : Tie) (present : 0 < m) (high : m < 2 ^ 53) (least : -1074 ≤ e)
    (most : e ≤ 971) : (around m e).Covers (shortest tie m e) := by
  obtain ⟨low, _⟩ := (Nat.log2_eq_iff (Nat.ne_of_gt present)).mp rfl
  have size : m.log2 < 53 := (Nat.log2_lt (Nat.ne_of_gt present)).mpr high
  unfold shortest
  refine covers_search ?_ (Nat.le_add_right _ _) ?_
  · unfold around
    dsimp only
    split <;> omega
  · rw [← Nat.one_mul (unit _ _), mul_unit_le_iff]
    have quarter : (2 : ℚ) ^ e = 4 * 2 ^ (e - 2) := by
      have four : (2 : ℚ) ^ (2 : Int) = 4 := by norm_num
      rw [← four, ← zpow_add₀ two_ne_zero, add_sub_cancel]
    calc ((1 : Nat) : ℚ) * 10 ^ ((((m.log2 + 1 : Nat) : Int) + e) * 30103 / 100000 + 2 - (30 : Nat))
        ≤ 2 ^ ((m.log2 : Int) + e) := by
          rw [Nat.cast_one, one_mul]
          exact ten_zpow_le (by omega) (by omega)
      _ = ((2 ^ m.log2 : Nat) : ℚ) * 2 ^ e := by
        rw [zpow_add₀ two_ne_zero, zpow_natCast, Nat.cast_pow, Nat.cast_ofNat]
      _ ≤ m * 2 ^ e := mul_le_mul_of_nonneg_right (Nat.cast_le.mpr low) (by positivity)
      _ = ((4 * m : Nat) : ℚ) * 2 ^ (e - 2) := by
        rw [quarter]
        push_cast
        ring

/-- The middle above a float is at most the overflow, the one above the largest float. -/
theorem upper_bound_le_overflow (high : m < 2 ^ 53) (most : e ≤ 971) :
    ((around m e).high : ℚ) * 2 ^ (around m e).exponent ≤ overflow := by
  show ((4 * m + 2 : Nat) : ℚ) * 2 ^ (e - 2) ≤ _
  have bound : ((4 * m + 2 + 2 : Nat) : ℚ) ≤ 2 ^ 55 := by
    exact_mod_cast show 4 * m + 2 + 2 ≤ 2 ^ 55 by omega
  have unit : (0 : ℚ) < 2 ^ (e - 2) := by positivity
  have grown : (2 : ℚ) ^ (e - 2 + 1) ≤ 2 ^ (970 : Int) :=
    zpow_le_zpow_right₀ one_le_two (by omega)
  rw [zpow_add_one₀ two_ne_zero] at grown
  unfold overflow
  generalize (2 : ℚ) ^ (970 : Int) = largest at grown ⊢
  have scaled := mul_le_mul_of_nonneg_right bound unit.le
  push_cast at scaled ⊢
  linarith

/-- The search for a decimal looks at some grids only. -/
theorem RoundingInterval.exponent_search (r : RoundingInterval) (tie : Tie) (fuel : Nat) (k : Int) :
    k - fuel ≤ (r.search tie fuel k).exponent ∧ (r.search tie fuel k).exponent ≤ k := by
  induction fuel generalizing k with
  | zero => exact ⟨by show k - 0 ≤ k; omega, Int.le_refl k⟩
  | succ fuel ih =>
    unfold search
    cases r.onGrid? tie k with
    | some digits => exact ⟨by show k - (fuel + 1 : Nat) ≤ k; omega, Int.le_refl k⟩
    | none =>
      obtain ⟨least, most⟩ := ih (k - 1)
      dsimp only
      constructor <;> omega

/-- The shortest decimal of a float has an exponent of moderate size. -/
theorem exponent_shortest (tie : Tie) (present : 0 < m) (high : m < 2 ^ 53) (least : -1074 ≤ e)
    (most : e ≤ 971) : -400 ≤ (shortest tie m e).exponent := by
  have size : m.log2 < 53 := (Nat.log2_lt (Nat.ne_of_gt present)).mpr high
  have bounds := (around m e).exponent_search tie 30
    ((((m.log2 + 1 : Nat) : Int) + e) * 30103 / 100000 + 2)
  unfold shortest
  dsimp only
  omega

/-- The shortest decimal of a float is at most the overflow. -/
theorem shortest_le_overflow (present : 0 < m) (high : m < 2 ^ 53) (least : -1074 ≤ e)
    (most : e ≤ 971) : (shortest .even m e).digits * (10 : ℚ) ^ (shortest .even m e).exponent ≤
      overflow :=
  (mul_unit_le_iff.mp (covers_shortest .even present high least most).2).trans
    (upper_bound_le_overflow high most)

/-- A float that is not one of the two largest ones leaves room for rounding twice. -/
theorem upper_bound_le (high : m < 2 ^ 53) (most : e ≤ 971) (smaller : e = 971 → m < 2 ^ 53 - 2) :
    ((around m e).high : ℚ) * 2 ^ (around m e).exponent ≤ (2 ^ 54 - 5) * 2 ^ (970 : Int) := by
  show ((4 * m + 2 : Nat) : ℚ) * 2 ^ (e - 2) ≤ _
  have unit : (0 : ℚ) < 2 ^ (e - 2) := by positivity
  rcases Int.lt_or_eq_of_le most with below | rfl
  · have two : (2 : ℚ) ^ (2 : Int) = 4 := by norm_num
    have grown : (2 : ℚ) ^ (e - 2 + 2) ≤ 2 ^ (970 : Int) :=
      zpow_le_zpow_right₀ one_le_two (by omega)
    have bound : ((4 * m + 2 : Nat) : ℚ) ≤ 2 ^ 55 := by
      exact_mod_cast show 4 * m + 2 ≤ 2 ^ 55 by omega
    have scaled := mul_le_mul_of_nonneg_right bound unit.le
    rw [zpow_add₀ two_ne_zero, two] at grown
    generalize (2 : ℚ) ^ (970 : Int) = largest at grown ⊢
    linarith
  · have bound : ((4 * m + 2 + 10 : Nat) : ℚ) ≤ 2 ^ 55 := by
      have small := smaller rfl
      exact_mod_cast show 4 * m + 2 + 10 ≤ 2 ^ 55 by omega
    have half : (2 : ℚ) ^ (970 : Int) = 2 ^ (971 - 2 : Int) * 2 :=
      zpow_add_one₀ two_ne_zero (971 - 2 : Int)
    rw [half]
    generalize (2 : ℚ) ^ (971 - 2 : Int) = least at unit ⊢
    have scaled := mul_le_mul_of_nonneg_right bound unit.le
    push_cast at scaled ⊢
    linarith

/-- The shortest decimal of a float that is not one of the two largest ones stays below the overflow
also after it has been rounded twice. -/
theorem shortest_lt_overflow (present : 0 < m) (high : m < 2 ^ 53) (least : -1074 ≤ e)
    (most : e ≤ 971) (smaller : e = 971 → m < 2 ^ 53 - 2) :
    (shortest .even m e).digits * (10 : ℚ) ^ (shortest .even m e).exponent *
      (1 + 2 ^ (-53 : ℤ)) ^ 2 < overflow := by
  have covered := mul_unit_le_iff.mp (covers_shortest .even present high least most).2
  have unit : (0 : ℚ) < 2 ^ (970 : Int) := by positivity
  have room : (2 ^ 54 - 5) * (1 + (2 : ℚ) ^ (-53 : ℤ)) ^ 2 < 2 ^ 54 - 1 := by norm_num
  calc (shortest .even m e).digits * (10 : ℚ) ^ (shortest .even m e).exponent *
        (1 + 2 ^ (-53 : ℤ)) ^ 2
      ≤ (2 ^ 54 - 5) * 2 ^ (970 : Int) * (1 + 2 ^ (-53 : ℤ)) ^ 2 :=
        mul_le_mul_of_nonneg_right (covered.trans (upper_bound_le high most smaller))
          (by positivity)
    _ = (2 ^ 54 - 5) * (1 + 2 ^ (-53 : ℤ)) ^ 2 * 2 ^ (970 : Int) := by ring
    _ < overflow := mul_lt_mul_of_pos_right room unit

end QualityGates.Number
