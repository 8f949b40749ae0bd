import QualityGates.CommandLine.Execution
import QualityGates.Proofs.Drift.Findings
import QualityGates.Proofs.Regression.Run

/-!
# What commands come to

A gate comes to a verdict or a failure, and only then the form of its report is looked at. The
commands for documents share the layering of their configuration: after it, one of them runs the
gate and the other one only resolves the version and makes the rules.
-/

namespace QualityGates

/-- A program exits with a two exactly when it was aborted. -/
theorem ExitStatus.code_eq_two_iff {status : ExitStatus} : status.code = 2 ↔ status = .fatal := by
  cases status <;> decide

/-- A verdict does not abort the program. -/
theorem Verdict.exitStatus_ne_fatal (v : Verdict) : v.exitStatus ≠ .fatal := by
  unfold exitStatus
  cases v.passed <;> decide

namespace CommandLine

/-- What a gate comes to before it is reported. -/
structure Judgement where
  warnings : List Warning := []
  result : Except Failure Verdict

/-- The outcome of a gate with a report in one of the two forms. -/
def Judgement.outcome (j : Judgement) (json : Bool) : Outcome :=
  match j.result with
  | .error f => .aborted f j.warnings
  | .ok v => .ofVerdict v json j.warnings

/-- A gate is only aborted where it comes to no verdict. -/
theorem Judgement.status_ne_fatal_iff {j : Judgement} {json : Bool} :
    (j.outcome json).status ≠ .fatal ↔ ∃ v, j.result = .ok v := by
  unfold Judgement.outcome
  cases j.result with
  | error f => exact ⟨fun going => absurd rfl going, fun ⟨_, judged⟩ => (nomatch judged)⟩
  | ok v => exact ⟨fun _ => ⟨v, rfl⟩, fun _ => v.exitStatus_ne_fatal⟩

variable {s : Surroundings} {o : DriftOptions} {json : Bool} {f : Failure} {c : DriftConfig}

/-! ## Commands for documents -/

/-- The root is found before the configuration file is loaded, and that before steps are taken. -/
theorem inside_driftConfig : (driftConfig o).inside s =
    ((loadConfig o.config
      (some (Layout.ofRoot ((resolveRoot o.root).inside s)).config)).inside s).map fun file =>
        .ofSteps ((resolveRoot o.root).inside s) (driftSteps o file) := by
  unfold driftConfig
  rw [Lookup.inside_bind, Lookup.inside_bind]
  cases (loadConfig o.config
    (some (Layout.ofRoot ((resolveRoot o.root).inside s)).config)).inside s <;> rfl

/-- The failure of a run of the drift gate. -/
def driftFailure (c : DriftConfig) (e : GateError) : Failure :=
  ⟨"Docs drift check aborted for " ++ c.layout.root.text, e⟩

/-- What checking documents with a configuration comes to. -/
def judgeDocuments (s : Surroundings) (c : DriftConfig) : Judgement where
  warnings := ((DriftRun.ofConfig c).inside s).warnings
  result :=
    (((DriftRun.ofConfig c).inside s).result.map DriftRun.verdict).mapError (driftFailure c)

/-- Without a configuration, documents are not checked. -/
theorem inside_docsDrift_error (failed : (driftConfig o).inside s = .error f) :
    (docsDrift o json).inside s = .aborted f := by
  unfold docsDrift
  rw [Lookup.inside_bind, failed]
  rfl

/-- With a configuration, checking documents is running the gate and reporting. -/
theorem inside_docsDrift_ok (layered : (driftConfig o).inside s = .ok c) :
    (docsDrift o json).inside s = (judgeDocuments s c).outcome json := by
  unfold docsDrift judgeDocuments Judgement.outcome
  rw [Lookup.inside_bind, layered]
  show Lookup.inside s (_ >>= _) = _
  rw [Lookup.inside_bind]
  cases ((DriftRun.ofConfig c).inside s).result <;> rfl

/-- Without a configuration, no rules are listed. -/
theorem inside_listRules_error (failed : (driftConfig o).inside s = .error f) :
    (listRules o json).inside s = .aborted f := by
  unfold listRules
  rw [Lookup.inside_bind, failed]
  rfl

/-- What a listing comes to once the version has been looked for. -/
def listingOutcome (c : DriftConfig) (json : Bool) : Warned (Option Version) → Outcome
  | ⟨warnings, .error e⟩ => .aborted ⟨"Failed to resolve baseline version", e⟩ warnings
  | ⟨warnings, .ok baseline⟩ =>
    match RuleSet.forDocs baseline c.staleVersions with
    | .error e => .aborted ⟨"Failed to build drift rules", e⟩ warnings
    | .ok rules => .finished .pass ((ruleListing c baseline rules).report json) warnings

/-- With a configuration, listing rules only needs the version. -/
theorem inside_listRules_ok (layered : (driftConfig o).inside s = .ok c) :
    (listRules o json).inside s = listingOutcome c json
      ((Release.resolve c.baselineOverride c.layout.manifest).inside s) := by
  unfold listRules
  rw [Lookup.inside_bind, layered]
  show Lookup.inside s (_ >>= _) = _
  rw [Lookup.inside_bind]
  obtain ⟨warnings, result⟩ := (Release.resolve c.baselineOverride c.layout.manifest).inside s
  cases result with
  | error e => rfl
  | ok baseline =>
    unfold listingOutcome
    dsimp only
    cases RuleSet.forDocs baseline c.staleVersions <;> rfl

/-- Options for the sample project. -/
def sampleOptions : DriftOptions where
  root := "/p"
  allowlist := some "docs/a*"
  baselineVersion := some "1.2.3"

/-- The sample project has no configuration file. -/
theorem inside_driftConfig_sample (rooted : o.root = "/p") (unnamed : o.config = none) :
    (driftConfig o).inside DriftRun.sampleProject =
      .ok (.ofSteps ⟨"/p"⟩ (driftSteps o {})) := by
  have root : (resolveRoot "/p").inside DriftRun.sampleProject = ⟨"/p"⟩ := rfl
  rw [inside_driftConfig, rooted, unnamed, root]
  rfl

/-- The sample options lead to the sample configuration. -/
theorem sample_layered :
    (driftConfig sampleOptions).inside DriftRun.sampleProject = .ok DriftRun.sampleConfig :=
  inside_driftConfig_sample rfl rfl

/-- With the sample options, the sample project is checked up to a verdict. -/
theorem sample_docsDrift (json : Bool) :
    ((docsDrift sampleOptions json).inside DriftRun.sampleProject).status ≠ .fatal := by
  obtain ⟨run, done⟩ := Except.exists_of_isOk DriftRun.sample_completes
  rw [inside_docsDrift_ok sample_layered, Judgement.status_ne_fatal_iff]
  refine ⟨run.verdict, ?_⟩
  unfold judgeDocuments
  rw [done]
  rfl

/-! ## The command for benchmarks -/

/-- The configuration of the benchmark command with the contents of the configuration file. -/
def regressionConfig (o : RegressionOptions) (file : ConfigFile) : RegressionConfig :=
  .ofSteps ⟨o.baseline⟩ ⟨o.current⟩ [.fileSection file.regression, .thresholds o.flat o.embedded]

/-- What comparing benchmark results comes to. -/
def judgeBenchmarks (s : Surroundings) (o : RegressionOptions) : Judgement where
  result :=
    ((loadConfig o.config none).inside s).bind fun file =>
      ((Regression.run (regressionConfig o file)).inside s).mapError
        (Failure.mk "Benchmark regression check aborted")

/-- Comparing benchmark results is loading the configuration, running the gate and reporting. -/
theorem inside_benchRegression {o : RegressionOptions} :
    (benchRegression o json).inside s = (judgeBenchmarks s o).outcome json := by
  unfold benchRegression judgeBenchmarks Judgement.outcome
  rw [Lookup.inside_bind]
  cases (loadConfig o.config none).inside s with
  | error f => rfl
  | ok file =>
    dsimp only [Except.bind]
    rw [Lookup.inside_bind]
    unfold regressionConfig
    cases (Regression.run (RegressionConfig.ofSteps ⟨o.baseline⟩ ⟨o.current⟩
      [.fileSection file.regression, .thresholds o.flat o.embedded])).inside s <;> rfl

end CommandLine
end QualityGates
