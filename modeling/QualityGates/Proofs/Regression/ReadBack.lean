import QualityGates.Proofs.Number.Loss
import QualityGates.Proofs.Regression.Outcome
import QualityGates.Proofs.Report.ReadBack

/-!
# Benchmark reports that are read back

The scores that a regression is computed from are finite, and so is what may be lost. What was lost
is finite too unless the current score is negative: then the difference or the quotient can exceed
the largest float. The report of such a regression has a `null` and is not read back.
-/

namespace QualityGates

namespace Regression

variable {t : Thresholds} {written : List (String × Json)} {entries : List Json} {name : String}

/-- A benchmark is allowed a fraction. -/
theorem Allowed.isFraction {x : Float} (may : Allowed t name x) (accepted : t.invalid? = none) :
    Thresholds.isFraction x = true := by
  obtain ⟨flat, embedded⟩ := Thresholds.isFraction_of_accepted accepted
  cases may with
  | flat => exact flat
  | embedded => exact embedded
  | larger _ _ which =>
    rw [which]
    split
    · exact embedded
    · exact flat

/-- A score that was measured is finite. -/
theorem LastScore.isFinite {x : Float} (measured : LastScore entries name x) :
    x.isFinite = true := by
  obtain ⟨_, _, _, _, ⟨_, _, _, _, _, _, finite⟩, _⟩ := measured
  exact finite

/-- A recorded score that is of use is finite. -/
theorem isFinite_of_not_badScore {b : Float} (good : ¬ BadScore b) : b.isFinite = true := by
  cases finite : b.isFinite with
  | true => rfl
  | false =>
    rw [Number.isFinite_eq_false_iff] at finite
    exact absurd (finite.elim .inl fun infinite => .inr (.inl infinite)) good

/-- Exactly the findings of one check have figures. -/
theorem Outcome.detail_isSome_iff {f : Finding}
    (outcome : Outcome t written entries name (some f)) :
    f.detail.isSome = true ↔ f.ruleId = Check.regression.id := by
  cases outcome with
  | missing => exact iff_of_false nofun (show "missing-benchmark-result" ≠ _ by decide)
  | invalid => exact iff_of_false nofun (show "invalid-baseline-score" ≠ _ by decide)
  | regressed => exact iff_of_true rfl rfl

/-- How the figures of a regression come about. -/
structure Figures (d : RegressionDetail) : Prop where
  baseline : d.baseline.isFinite = true
  current : d.current.isFinite = true
  allowed : d.allowed.isFinite = true
  /-- What was lost, relative to the recorded score. -/
  regression : d.regression = (d.baseline - d.current) / d.baseline
  /-- Only a negative score can lose too much for a float. -/
  bounded : 0.0 ≤ d.current → d.regression.isFinite = true

/-- The figures that are reported about a name come about like that. -/
theorem Outcome.figures {f : Finding} {d : RegressionDetail} (accepted : t.invalid? = none)
    (outcome : Outcome t written entries name (some f)) (detail : f.detail = some d) :
    Figures d := by
  cases outcome with
  | missing => cases detail
  | invalid => cases detail
  | @regressed b c allowed _ measured good may lost =>
    cases detail
    have recorded := isFinite_of_not_badScore good
    have current := LastScore.isFinite measured
    have fraction := may.isFraction accepted
    exact ⟨recorded, current, (Number.isFraction_iff.mp fraction).1, rfl, fun low =>
      Number.isFinite_loss recorded (fun least => good (.inr (.inr least))) current low fraction
        lost⟩

/-- A verdict reports the outcome of some name. -/
theorem exists_outcome_of_run {s : Surroundings} {c : RegressionConfig} {v : Verdict}
    (done : (run c).inside s = .ok v) {f : Finding} (reported : f ∈ v.findings) :
    c.thresholds.invalid? = none ∧
      ∃ written entries name, Outcome c.thresholds written entries name (some f) := by
  obtain ⟨accepted, b, r, baseline, results, rfl⟩ := run_ok done
  obtain ⟨_, written, _, _, recorded⟩ := Baseline.load_ok baseline
  obtain ⟨_, entries, _, _, measured⟩ := Results.load_ok results
  obtain ⟨_, scores⟩ := baseline_entries recorded
  obtain ⟨entry, entryIn, found⟩ := List.mem_filterMap.mp reported
  refine ⟨accepted, written, entries, entry.1, ?_⟩
  rw [← found]
  exact finding?_outcome accepted measured (scores entry entryIn)

/-- Figures that come about like that are finite exactly if what was lost is. -/
theorem Figures.isFinite_iff {d : RegressionDetail} (figures : Figures d) :
    d.IsFinite ↔ d.regression.isFinite = true :=
  ⟨fun finite => finite.regression, fun finite =>
    ⟨figures.baseline, figures.current, finite, figures.allowed⟩⟩

/-- The structured report of a run gives every recorded score, current score and allowed fraction as
a number, and what was lost as a number or, if that is not finite, as `null`. The report is read
back exactly if every loss is finite, as it is for current scores that are not negative, and then
with the same lines. -/
theorem reports_read_back_unless_overflow {s : Surroundings} {c : RegressionConfig} {v : Verdict}
    (done : (run c).inside s = .ok v) :
    (∀ f ∈ v.findings, (f.detail.isSome = true ↔ f.ruleId = Check.regression.id) ∧
      ∀ d, f.detail = some d → Figures d) ∧
    (∃ json values, Json.ofText v.jsonReport = .ok json ∧
      json.member? "findings" = some (.array values) ∧
        List.Forall₂ Finding.In v.findings values) ∧
    ((∃ v', Verdict.ofReport v.jsonReport = .ok v') ↔
      ∀ f ∈ v.findings, ∀ d, f.detail = some d → d.regression.isFinite = true) ∧
    ∀ v', Verdict.ofReport v.jsonReport = .ok v' →
      v'.gate = v.gate ∧ v'.passed = v.passed ∧
        v'.targetsExamined = v.targetsExamined % 2 ^ 64 ∧
          List.Forall₂ Finding.SameLine v.findings v'.findings := by
  have figures : ∀ f ∈ v.findings, (f.detail.isSome = true ↔ f.ruleId = Check.regression.id) ∧
      ∀ d, f.detail = some d → Figures d := by
    intro f reported
    obtain ⟨accepted, _, _, _, outcome⟩ := exists_outcome_of_run done reported
    exact ⟨outcome.detail_isSome_iff, fun d detail => outcome.figures accepted detail⟩
  obtain ⟨json, values, parsed, found, fields, _⟩ := v.jsonReport_read
  obtain ⟨readable, same⟩ := v.ofReport_jsonReport
  have finite : v.FiniteFigures ↔
      ∀ f ∈ v.findings, ∀ d, f.detail = some d → d.regression.isFinite = true :=
    forall₄_congr fun f reported d detail => ((figures f reported).2 d detail).isFinite_iff
  exact ⟨figures, ⟨json, values, parsed, fields.findings, found⟩, readable.trans finite, same⟩

/-- Whether a verdict reports a loss. -/
def reportsLoss (v : Verdict) : Bool :=
  v.findings.any fun f => f.detail.isSome

/-- Whether every loss that a verdict reports is finite. -/
def lossesFinite (v : Verdict) : Bool :=
  v.findings.all fun f => f.detail.all fun d => d.regression.isFinite

/-- The losses are those of the figures that are reported. -/
theorem lossesFinite_iff {v : Verdict} : lossesFinite v = true ↔
    ∀ f ∈ v.findings, ∀ d, f.detail = some d → d.regression.isFinite = true := by
  simp [lossesFinite, Option.all_eq_true]

/-- The report on the sample baseline has a loss, which is finite, and is read back. -/
theorem sample_read_back : ∃ v, (run sampleConfig).inside sampleProject = .ok v ∧
    reportsLoss v = true ∧ ∃ v', Verdict.ofReport v.jsonReport = .ok v' ∧
      v'.gate = v.gate ∧ v'.passed = v.passed ∧
        v'.targetsExamined = v.targetsExamined % 2 ^ 64 ∧
          List.Forall₂ Finding.SameLine v.findings v'.findings := by
  have runs : ((run sampleConfig).inside sampleProject).toOption.any
      (fun v => reportsLoss v && lossesFinite v) = true := by decide +kernel
  obtain ⟨v, done, reported⟩ := Except.exists_of_any runs
  rw [Bool.and_eq_true] at reported
  obtain ⟨_, _, readable, same⟩ := reports_read_back_unless_overflow done
  obtain ⟨v', read⟩ := readable.mpr (lossesFinite_iff.mp reported.2)
  exact ⟨v, done, reported.1, v', read, same v' read⟩

/-- A recorded score and a current one that are too far apart for a float. -/
def overflowingProject : Surroundings where
  tree := ⟨[(["p", "baseline.json"], .file "\x7b\"a\": 1e308\x7d".toUTF8),
    (["p", "results.json"], .file
      "[\x7b\"benchmark\": \"a\", \"primaryMetric\": \x7b\"score\": -1e308\x7d\x7d]".toUTF8)]⟩
  workingDirectory := ["p"]

/-- The loss between them is not finite, and so the report of the run is not read back. -/
theorem overflow_not_read_back : ∃ v, (run sampleConfig).inside overflowingProject = .ok v ∧
    (∃ f ∈ v.findings, ∃ d, f.detail = some d ∧ d.regression.isFinite = false) ∧
    ∀ v', Verdict.ofReport v.jsonReport ≠ .ok v' := by
  have runs : ((run sampleConfig).inside overflowingProject).toOption.any
      (fun v => !lossesFinite v) = true := by decide +kernel
  obtain ⟨v, done, infinite⟩ := Except.exists_of_any runs
  have lost : ∃ f ∈ v.findings, ∃ d, f.detail = some d ∧ d.regression.isFinite = false := by
    rw [Bool.not_eq_true', ← Bool.not_eq_true, lossesFinite_iff] at infinite
    push Not at infinite
    simpa only [Bool.not_eq_true, ne_eq] using infinite
  refine ⟨v, done, lost, fun v' read => ?_⟩
  obtain ⟨f, reported, d, detail, overflows⟩ := lost
  have finite := (v.ofReport_jsonReport.1.mp ⟨v', read⟩ f reported d detail).regression
  exact absurd (finite.symm.trans overflows) (by decide)

end Regression
end QualityGates
