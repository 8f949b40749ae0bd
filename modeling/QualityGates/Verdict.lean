/-!
# Findings and verdicts

A gate examines targets and reports every violation as a finding, in the order in which it comes
upon them. The verdict of a gate passes when there is no finding.
-/

namespace QualityGates

/-- A gate. -/
inductive Gate where
  | docsDrift
  | benchRegression
  deriving DecidableEq, Repr, Inhabited

namespace Gate

/-- The title of a gate in reports. -/
def title : Gate → String
  | docsDrift => "Docs drift check"
  | benchRegression => "Benchmark regression check"

/-- What a gate examines. -/
def noun : Gate → String
  | docsDrift => "files"
  | benchRegression => "benchmarks"

/-- The name of a gate in structured reports. -/
def key : Gate → String
  | docsDrift => "docs_drift"
  | benchRegression => "bench_regression"

end Gate

/-- The figures behind a regression. -/
structure RegressionDetail where
  baseline : Float
  current : Float
  /-- What was lost, as a fraction of the baseline score. -/
  regression : Float
  /-- The fraction that may be lost. -/
  allowed : Float
  deriving Inhabited

/-- A violation of a policy. -/
structure Finding where
  /-- A path and a line number, or the name of a benchmark. -/
  location : String
  ruleId : String
  message : String
  detail : Option RegressionDetail := none
  deriving Inhabited

/-- The outcome of a gate. -/
structure Verdict where
  gate : Gate
  passed : Bool
  targetsExamined : Nat
  findings : List Finding
  deriving Inhabited

/-- How a program ends. -/
inductive ExitStatus where
  | pass
  | fail
  /-- The gate was aborted. -/
  | fatal
  deriving DecidableEq, Repr, Inhabited

/-- The exit code of the program. -/
def ExitStatus.code : ExitStatus → Nat
  | pass => 0
  | fail => 1
  | fatal => 2

namespace Verdict

/-- The verdict that findings lead to. -/
def ofFindings (gate : Gate) (targetsExamined : Nat) (findings : List Finding) : Verdict :=
  { gate, passed := findings.isEmpty, targetsExamined, findings }

/-- How a program ends with a verdict. -/
def exitStatus (v : Verdict) : ExitStatus :=
  if v.passed then .pass else .fail

end Verdict
end QualityGates
