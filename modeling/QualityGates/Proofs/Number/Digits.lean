import Mathlib.Tactic.Ring
import QualityGates.Number.FloatText

/-!
# Numbers and their digits

A number is read back from its digits, which start with a zero for the number zero alone. A run of
digits is worth at least what is in front of it, moved by its length, and less than one more of
that. Rounded floats are written with digits, too.
-/

namespace QualityGates.Number

/-- Digits of numbers are digits. -/
theorem isDigit_of_mem_toDigits {n : Nat} {c : Char} (member : c ∈ Nat.toDigits 10 n) :
    isDigit c = true :=
  Nat.isDigit_of_mem_toDigits (by decide) (by decide) member

/-- A number is the value of its digits. -/
theorem value_toDigits (n : Nat) : value (Nat.toDigits 10 n) = n :=
  Nat.ofDigitChars_toDigits (by decide) (by decide)

/-- Numbers in decimal tell numbers apart. -/
theorem natText_inj {n m : Nat} (same : (natText n).toList = (natText m).toList) : n = m := by
  rw [natText, natText, String.toList_ofList, String.toList_ofList] at same
  rw [← value_toDigits n, same, value_toDigits]

/-- A positive number does not start with a zero. -/
theorem toDigits_head {n : Nat} (positive : n ≠ 0) :
    ∃ d ds, Nat.toDigits 10 n = d :: ds ∧ d ≠ '0' := by
  induction n using Nat.strongRecOn with
  | ind n ih =>
    by_cases single : n < 10
    · refine ⟨n.digitChar, [], Nat.toDigits_of_lt_base single, fun zero => ?_⟩
      exact positive (Nat.digitChar_eq_zero.mp zero)
    · obtain ⟨d, ds, front, leading⟩ := ih (n / 10) (by omega) (by omega)
      refine ⟨d, ds ++ [(n % 10).digitChar], ?_, leading⟩
      rw [Nat.toDigits_of_base_le (by decide) (by omega), front, List.cons_append]

/-- The first digit is where a value starts. -/
theorem value_cons (d : Char) (ds : List Char) : value (d :: ds) = valueFrom (digitValue d) ds := by
  show valueFrom (10 * 0 + digitValue d) ds = _
  rw [Nat.mul_zero, Nat.zero_add]

/-- A digit is worth less than ten. -/
theorem digitValue_lt {c : Char} (digit : isDigit c = true) : digitValue c < 10 := by
  unfold isDigit at digit
  rw [Bool.and_eq_true, decide_eq_true_iff, decide_eq_true_iff] at digit
  have upper : c.toNat ≤ '9'.toNat := digit.2
  show c.toNat - '0'.toNat < 10
  have zero : '0'.toNat = 48 := rfl
  have nine : '9'.toNat = 57 := rfl
  omega

/-- Digits behind a number are worth at least the number, moved by their length. -/
theorem mul_pow_le_valueFrom (n : Nat) (ds : List Char) :
    n * 10 ^ ds.length ≤ valueFrom n ds := by
  induction ds generalizing n with
  | nil => exact Nat.le_of_eq (Nat.mul_one n)
  | cons d ds ih =>
    calc n * 10 ^ (ds.length + 1) = 10 * n * 10 ^ ds.length := by rw [Nat.pow_succ]; ring
      _ ≤ (10 * n + digitValue d) * 10 ^ ds.length :=
        Nat.mul_le_mul_right _ (Nat.le_add_right _ _)
      _ ≤ valueFrom n (d :: ds) := ih _

/-- Digits behind a number are worth less than one more of it, moved by their length. -/
theorem valueFrom_lt {ds : List Char} (n : Nat) (digits : ∀ d ∈ ds, isDigit d = true) :
    valueFrom n ds < (n + 1) * 10 ^ ds.length := by
  induction ds generalizing n with
  | nil => exact Nat.lt_of_lt_of_eq (Nat.lt_succ_self n) (Nat.mul_one (n + 1)).symm
  | cons d ds ih =>
    rw [List.forall_mem_cons] at digits
    have small := digitValue_lt digits.1
    calc valueFrom n (d :: ds) < (10 * n + digitValue d + 1) * 10 ^ ds.length := ih _ digits.2
      _ ≤ 10 * (n + 1) * 10 ^ ds.length := Nat.mul_le_mul_right _ (by omega)
      _ = (n + 1) * 10 ^ (ds.length + 1) := by rw [Nat.pow_succ]; ring

/-- A float with a fixed number of places is written with digits and a few marks. -/
theorem mem_fixedText {places : Nat} {x : Float} {c : Char}
    (member : c ∈ (fixedText places x).toList) :
    isDigit c = true ∨ c ∈ "-.NaNinf".toList := by
  have signed {negative : Bool} (member : c ∈ (signText negative).toList) : c = '-' := by
    cases negative with
    | false => exact absurd member List.not_mem_nil
    | true => exact List.mem_singleton.mp member
  unfold fixedText at member
  cases taken : Binary64.ofFloat x with
  | nan =>
    rw [taken] at member
    have marks : "NaN".toList.Sublist "-.NaNinf".toList := by decide
    exact .inr (marks.subset member)
  | infinite negative =>
    rw [taken] at member
    dsimp only at member
    rw [String.toList_append, List.mem_append] at member
    rcases member with sign | letter
    · exact .inr (by rw [signed sign]; decide)
    · have marks : "inf".toList.Sublist "-.NaNinf".toList := by decide
      exact .inr (marks.subset letter)
  | finite negative significand exponent =>
    rw [taken] at member
    dsimp only at member
    generalize divideToEven _ _ = scaled at member
    have padded : ∀ c ∈ List.replicate (places + 1 - (Nat.toDigits 10 scaled).length) '0' ++
        Nat.toDigits 10 scaled, isDigit c = true := by
      intro c member
      rcases List.mem_append.mp member with zero | digit
      · exact List.eq_of_mem_replicate zero ▸ rfl
      · exact isDigit_of_mem_toDigits digit
    rw [String.toList_append, String.toList_append, String.toList_ofList] at member
    rcases List.mem_append.mp member with front | back
    · rcases List.mem_append.mp front with sign | digit
      · exact .inr (by rw [signed sign]; decide)
      · exact .inl (padded c (List.mem_of_mem_take digit))
    · split at back
      · exact absurd back List.not_mem_nil
      · rw [String.toList_append] at back
        rcases List.mem_append.mp back with point | digit
        · exact .inr (by rw [List.mem_singleton.mp point]; decide)
        · rw [String.toList_ofList] at digit
          exact .inl (padded c (List.mem_of_mem_drop digit))

end QualityGates.Number
