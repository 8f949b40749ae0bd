import QualityGates.Config.Regression
import QualityGates.Regression.Evaluation

/-!
# Running the benchmark gate

Thresholds are checked before any file is read, and the baseline is read before the results.
-/

namespace QualityGates.Regression

/-- The error for thresholds that are no fractions. -/
def checkThresholds (t : Thresholds) : Except GateError Unit :=
  match t.invalid? with
  | some (category, value) => .error (.invalidThreshold category value)
  | none => .ok ()

/-- Runs the gate. -/
def run (c : RegressionConfig) : Lookup (Except GateError Verdict) :=
  match checkThresholds c.thresholds with
  | .error e => pure (.error e)
  | .ok () => do
    match ← Baseline.load c.baseline with
    | .error e => return .error e
    | .ok baseline =>
      match ← Results.load c.current with
      | .error e => return .error e
      | .ok results => return .ok (verdict c.thresholds baseline results)

end QualityGates.Regression
