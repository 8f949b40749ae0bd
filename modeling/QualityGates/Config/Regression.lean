import QualityGates.Config.File

/-!
# The configuration of the benchmark gate

The files to compare, and thresholds that the configuration file and the command line may change.
The last value that is given counts.
-/

namespace QualityGates

/-- What the benchmark gate is run with. -/
structure RegressionConfig where
  baseline : Path
  current : Path
  thresholds : Thresholds := {}
  deriving Inhabited

/-- A step that changes a configuration. -/
inductive RegressionStep where
  | fileSection (s : RegressionSection)
  | thresholds (flat embedded : Option Float)
  deriving Inhabited

namespace RegressionConfig

/-- Takes a step. -/
def step (c : RegressionConfig) : RegressionStep → RegressionConfig
  | .fileSection s => { c with thresholds := c.thresholds.set s.flat s.embedded }
  | .thresholds flat embedded => { c with thresholds := c.thresholds.set flat embedded }

/-- The configuration that steps lead to. -/
def ofSteps (baseline current : Path) (steps : List RegressionStep) : RegressionConfig :=
  steps.foldl step { baseline, current }

end RegressionConfig
end QualityGates
