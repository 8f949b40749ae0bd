import QualityGates.Number.FloatText
import QualityGates.Regression.Score
import QualityGates.Threshold
import QualityGates.Verdict

/-!
# Comparing benchmark results

Every benchmark of the baseline is looked up in the current results. It is reported if it did not
run, if its recorded score is not a positive finite number, or if it lost more than it may.
Benchmarks that are not in the baseline are not compared.
-/

namespace QualityGates.Regression

/-- What can be wrong with a benchmark. -/
inductive Check where
  | missingResult
  | invalidBaseline
  | regression
  deriving DecidableEq, Repr, Inhabited

/-- The identifier of a check in reports. -/
def Check.id : Check → String
  | missingResult => "missing-benchmark-result"
  | invalidBaseline => "invalid-baseline-score"
  | regression => "throughput-regression"

/-- The wording of a regression. -/
def message (d : RegressionDetail) : String :=
  "baseline=" ++ Number.fixedText 3 d.baseline ++ ", current=" ++ Number.fixedText 3 d.current ++
    ", regression=" ++ Number.fixedText 2 (d.regression * 100.0) ++
    "%, allowed=" ++ Number.fixedText 2 (d.allowed * 100.0) ++ "%"

/-- The score that a benchmark must reach. -/
def leastScore (baseline allowed : Float) : Float :=
  baseline * (1.0 - allowed)

/-- Compares the current score of a benchmark with a recorded one. -/
def compare (allowed baseline current : Float) : Option RegressionDetail :=
  if current < leastScore baseline allowed then
    some { baseline, current, regression := (baseline - current) / baseline, allowed }
  else none

/-- The finding for a benchmark, if there is one. -/
def finding? (t : Thresholds) (r : Results) (benchmark : String) (baseline : Float) :
    Option Finding :=
  match r.get? benchmark with
  | none =>
    some
      { location := benchmark
        ruleId := Check.missingResult.id
        message := "missing benchmark result" }
  | some current =>
    if !baseline.isFinite || baseline ≤ 0.0 then
      some
        { location := benchmark
          ruleId := Check.invalidBaseline.id
          message := "invalid baseline score: " ++ Number.plainText baseline }
    else
      (compare (t.allowedFor benchmark) baseline current).map (fun detail =>
        { location := benchmark
          ruleId := Check.regression.id
          message := message detail
          detail := some detail })

/-- The findings for the benchmarks of a baseline. -/
def findings (t : Thresholds) (b : Baseline) (r : Results) : List Finding :=
  b.entries.filterMap (fun entry => finding? t r entry.1 entry.2)

/-- The verdict on current results. -/
def verdict (t : Thresholds) (b : Baseline) (r : Results) : Verdict :=
  .ofFindings .benchRegression b.entries.length (findings t b r)

end QualityGates.Regression
