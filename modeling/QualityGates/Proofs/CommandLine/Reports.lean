import QualityGates.Proofs.CommandLine.Arguments
import QualityGates.Proofs.CommandLine.Execution
import QualityGates.Proofs.Report

/-!
# Text reports and structured reports of a gate

A gate is run alike whatever form its report is asked for in, and what the text report says can be
computed from the structured one. Asking for the structured report is putting one more flag between
the arguments of the gate.
-/

namespace QualityGates.CommandLine

/-! ## What two reports share -/

/-- Two outcomes of a gate, reported as text and in JSON, tell the same. -/
structure SameReport (text json : Outcome) : Prop where
  status : json.status = text.status
  warnings : json.warnings = text.warnings
  /-- An aborted gate has an error to show and nothing else. -/
  aborted : text.status.code = 2 →
    text.output = "" ∧ json.output = "" ∧ ∃ f, text.failure = some f ∧ json.failure = some f
  /-- The structured report of a verdict has all that the text report is made of. -/
  reported : text.status.code = 0 ∨ text.status.code = 1 →
    text.failure = none ∧ json.failure = none ∧
      ∃ object fields, Json.ofText json.output = .ok object ∧ ReportFields.Of fields object ∧
        (fields.passed = true ↔ text.status.code = 0) ∧
        (fields.passed = true ↔ fields.findings = []) ∧ fields.text? = some text.output

/-- A verdict is one of findings when it passes without any. -/
def Judgement.OfFindings (j : Judgement) : Prop :=
  ∀ v, j.result = .ok v → v.passed = v.findings.isEmpty

/-- The reports of a verdict tell the same. -/
theorem Verdict.sameReport {v : Verdict} (ofFindings : v.passed = v.findings.isEmpty)
    (warnings : List Warning) :
    SameReport (.ofVerdict v false warnings) (.ofVerdict v true warnings) := by
  obtain ⟨object, values, parsed, found, fields, text⟩ := v.jsonReport_read
  have code : v.passed = true ↔ v.exitStatus.code = 0 := by
    unfold Verdict.exitStatus
    cases v.passed <;> decide
  have empty : v.passed = true ↔ values = [] := by
    rw [ofFindings, List.isEmpty_iff, ← List.length_eq_zero_iff, ← List.length_eq_zero_iff,
      found.length_eq]
  refine ⟨rfl, rfl, fun aborted => ?_, fun _ => ?_⟩
  · have fatal : v.exitStatus = .fatal := ExitStatus.code_eq_two_iff.mp aborted
    exact absurd fatal v.exitStatus_ne_fatal
  · exact ⟨rfl, rfl, object, _, parsed, fields, code, empty, text⟩

/-- The outcomes of a judgement tell the same. -/
theorem Judgement.sameReport {j : Judgement} (ofFindings : j.OfFindings) :
    SameReport (j.outcome false) (j.outcome true) := by
  unfold Judgement.outcome
  cases judged : j.result with
  | error f =>
    refine ⟨rfl, rfl, fun _ => ⟨rfl, rfl, f, rfl, rfl⟩, fun reported => ?_⟩
    rcases reported with pass | fail
    · cases pass
    · cases fail
  | ok v => exact Verdict.sameReport (ofFindings v judged) j.warnings

/-! ## Gates -/

variable {s : Surroundings}

/-- The verdict of the drift gate is one of findings. -/
theorem judgeDocuments_ofFindings (c : DriftConfig) : (judgeDocuments s c).OfFindings := by
  intro v judged
  obtain ⟨run, done, rfl⟩ := Except.map_eq_ok_iff.mp (Except.mapError_eq_ok_iff.mp judged)
  obtain ⟨_, _, targets, _, _, _, _, _, built⟩ := DriftRun.result_ok done
  rw [built]
  rfl

/-- The verdict of the benchmark gate is one of findings. -/
theorem judgeBenchmarks_ofFindings (o : RegressionOptions) : (judgeBenchmarks s o).OfFindings := by
  intro v judged
  obtain ⟨file, _, compared⟩ := Except.bind_eq_ok_iff.mp judged
  obtain ⟨_, b, r, _, _, rfl⟩ := Regression.run_ok (Except.mapError_eq_ok_iff.mp compared)
  rfl

/-- The two reports of the drift gate tell the same. -/
theorem docsDrift_sameReport (o : DriftOptions) :
    SameReport ((docsDrift o false).inside s) ((docsDrift o true).inside s) := by
  cases layered : (driftConfig o).inside s with
  | error f =>
    rw [inside_docsDrift_error layered, inside_docsDrift_error layered]
    exact Judgement.sameReport (j := ⟨[], .error f⟩) fun v judged => (nomatch judged)
  | ok c =>
    rw [inside_docsDrift_ok layered, inside_docsDrift_ok layered]
    exact Judgement.sameReport (judgeDocuments_ofFindings c)

/-- The two reports of the benchmark gate tell the same. -/
theorem benchRegression_sameReport (o : RegressionOptions) :
    SameReport ((benchRegression o false).inside s) ((benchRegression o true).inside s) := by
  rw [inside_benchRegression, inside_benchRegression]
  exact Judgement.sameReport (judgeBenchmarks_ofFindings o)

/-! ## Asking for the structured report -/

/-- The same gate with a structured report, for a gate with a text report. -/
def Command.structured? : Command → Option Command
  | .docsDrift o false => some (.docsDrift o true)
  | .benchRegression o false => some (.benchRegression o true)
  | _ => none

/-- The two reports of a gate tell the same. -/
theorem Command.perform_sameReport {c c' : Command} (gate : c.structured? = some c') :
    SameReport (c.perform.inside s) (c'.perform.inside s) := by
  unfold structured? at gate
  split at gate
  · cases gate
    exact docsDrift_sameReport _
  · cases gate
    exact benchRegression_sameReport _
  · cases gate

namespace Invocation

open Matches (Adds)

variable {env : Environment} {name : String} {args front back : List String} {c c' : Command}
  {g : Grammar} {build : Matches → Option Command}

/-- Whether the flag asks for the structured report of the gates that are built. -/
def AsksByFlag (build : Matches → Option Command) : Prop :=
  ∀ m m' c c', build m = some c → c.structured? = some c' →
    m.flag "json" = false ∧ (Adds "json" m m' → build m' = some c')

/-- A command runs when its arguments come to an end and give what it needs. -/
theorem ofReading_run_iff {reading : Reading} : ofReading build reading = .run c ↔
    ∃ m, reading = .finished m ∧ build m = some c := by
  constructor
  · intro ran
    unfold ofReading at ran
    split at ran
    · rename_i m
      split at ran
      · rename_i built
        cases ran
        exact ⟨m, rfl, built⟩
      · cases ran
    all_goals cases ran
  · rintro ⟨m, rfl, built⟩
    unfold ofReading
    dsimp only
    rw [built]

/-- The drift options are those of the same values. -/
theorem ofMatches_of_adds {m m' : Matches} (adds : Adds "json" m m') :
    DriftOptions.ofMatches env m' = DriftOptions.ofMatches env m := by
  unfold DriftOptions.ofMatches
  simp only [adds.value?]

/-- The flag asks for the structured report of the drift gate. -/
theorem asksByFlag_docsDrift :
    AsksByFlag fun m => some (.docsDrift (.ofMatches env m) (m.flag "json")) := by
  rintro m m' _ c' ⟨⟩ gate
  cases flag : m.flag "json" with
  | true =>
    rw [flag] at gate
    cases gate
  | false =>
    rw [flag] at gate
    cases gate
    refine ⟨rfl, fun adds => ?_⟩
    dsimp only
    rw [adds.flagged, ofMatches_of_adds adds]

/-- The flag asks for the structured report of the benchmark gate. -/
theorem asksByFlag_benchRegression :
    AsksByFlag fun m =>
      (RegressionOptions.ofMatches m).map fun o => .benchRegression o (m.flag "json") := by
  intro m m' c c' built gate
  obtain ⟨o, options, rfl⟩ := Option.map_eq_some_iff.mp built
  cases flag : m.flag "json" with
  | true =>
    rw [flag] at gate
    cases gate
  | false =>
    rw [flag] at gate
    cases gate
    refine ⟨rfl, fun adds => ?_⟩
    have same : RegressionOptions.ofMatches m' = RegressionOptions.ofMatches m := by
      unfold RegressionOptions.ofMatches
      simp only [adds.value?]
    dsimp only
    rw [same, options, adds.flagged]
    rfl

/-- A gate with a text report has a grammar in which a flag asks for the structured one. -/
theorem ofCommand_gate (gate : c.structured? = some c') (ran : ofCommand env name args = .run c) :
    ∃ (g : Grammar) (build : _), g.plain = 0 ∧ g.options.lookup "json" = some .flag ∧
      AsksByFlag build ∧
      ∀ args, ofCommand env name args = ofReading build (g.read {} args) := by
  unfold ofCommand at ran
  split at ran
  · exact ⟨driftGrammar, _, rfl, rfl, asksByFlag_docsDrift, fun _ => rfl⟩
  · obtain ⟨m, _, ⟨⟩⟩ := ofReading_run_iff.mp ran
    cases gate
  · exact ⟨regressionGrammar, _, rfl, rfl, asksByFlag_benchRegression, fun _ => rfl⟩
  · obtain ⟨m, _, ⟨⟩⟩ := ofReading_run_iff.mp ran
    cases gate
  · split at ran
    · unfold ofHelp at ran
      split at ran
      · cases ran
      · split at ran <;> cases ran
      · cases ran
    · cases ran

/-- The argument that asks for the structured report. -/
def jsonArgument : String := "--json"

/-- It has the form of an option. -/
theorem ofText_jsonArgument : Argument.ofText jsonArgument = .long "json" none := by
  decide

/-- The argument may stand in front of the arguments of a gate. -/
theorem ofCommand_cons_json (gate : c.structured? = some c')
    (ran : ofCommand env name args = .run c) :
    ofCommand env name (jsonArgument :: args) = .run c' := by
  obtain ⟨g, build, noPlain, known, asks, reads⟩ := ofCommand_gate gate ran
  rw [reads] at ran
  obtain ⟨m, finished, built⟩ := ofReading_run_iff.mp ran
  have accepts := Grammar.accepts_of_read noPlain finished rfl
  obtain ⟨m', finished', adds⟩ :=
    accepts.read_flag_cons ofText_jsonArgument known (asks m m c c' built gate).1
  rw [reads]
  exact ofReading_run_iff.mpr ⟨m', finished', (asks m m' c c' built gate).2 adds⟩

/-- Between the arguments of a gate, the argument asks for the structured report or is refused. -/
theorem ofCommand_insert_json (gate : c.structured? = some c')
    (ran : ofCommand env name (front ++ back) = .run c) :
    ofCommand env name (front ++ jsonArgument :: back) = .run c' ∨
      ofCommand env name (front ++ jsonArgument :: back) = .usageError := by
  obtain ⟨g, build, noPlain, known, asks, reads⟩ := ofCommand_gate gate ran
  rw [reads] at ran
  obtain ⟨m, finished, built⟩ := ofReading_run_iff.mp ran
  have accepts := Grammar.accepts_of_read noPlain finished rfl
  rw [reads]
  rcases accepts.read_insert_flag noPlain ofText_jsonArgument known
    (asks m m c c' built gate).1 with ⟨m', finished', adds⟩ | refused
  · exact .inl (ofReading_run_iff.mpr ⟨m', finished', (asks m m' c c' built gate).2 adds⟩)
  · rw [refused]
    exact .inr rfl

/-- A command that runs has its name among the arguments. -/
theorem ofArguments_run (ran : ofArguments env args = .run c) :
    ∃ name rest, programGrammar.read {} args = .subcommand name rest ∧
      ofCommand env name rest = .run c := by
  unfold ofArguments at ran
  split at ran
  · rename_i name rest read
    exact ⟨name, rest, read, ran⟩
  all_goals cases ran

/-- The argument may be put behind the name of a gate. -/
theorem ofArguments_json (gate : c.structured? = some c') (ran : ofArguments env args = .run c) :
    ∃ front back, args = front ++ back ∧
      ofArguments env (front ++ jsonArgument :: back) = .run c' := by
  obtain ⟨name, rest, read, carried⟩ := ofArguments_run ran
  obtain ⟨front, rfl, same⟩ := (Grammar.accepts_of_read rfl read rfl).behind_subcommand
  refine ⟨front, rest, rfl, ?_⟩
  unfold ofArguments
  rw [same]
  exact ofCommand_cons_json gate carried

/-- Wherever it is put, the argument asks for the structured report or is refused. -/
theorem ofArguments_insert_json (gate : c.structured? = some c')
    (ran : ofArguments env (front ++ back) = .run c) :
    ofArguments env (front ++ jsonArgument :: back) = .run c' ∨
      ofArguments env (front ++ jsonArgument :: back) = .usageError := by
  obtain ⟨name, rest, read, ran⟩ := ofArguments_run ran
  have accepts := Grammar.accepts_of_read (g := programGrammar) rfl read rfl
  unfold ofArguments
  rcases accepts.read_insert_unknown rfl ofText_jsonArgument rfl (by decide) (by decide) with
    ⟨behind, rfl, passed⟩ | refused
  · rw [passed]
    exact ofCommand_insert_json gate ran
  · rw [refused]
    exact .inr rfl

/-- A gate that reports as text can be asked for its structured report by one more argument, in
which way the argument is given does not matter, and the two reports tell the same. -/
theorem reports_agree (s : Surroundings) (ran : ofArguments env args = .run c)
    (gate : c.structured? = some c') :
    (∃ front back, args = front ++ back ∧
      ofArguments env (front ++ "--json" :: back) = .run c') ∧
    (∀ front back c'', args = front ++ back →
      ofArguments env (front ++ "--json" :: back) = .run c'' → c'' = c') ∧
    SameReport (c.perform.inside s) (c'.perform.inside s) := by
  refine ⟨ofArguments_json gate ran, ?_, Command.perform_sameReport gate⟩
  rintro front back c'' rfl ran'
  rcases ofArguments_insert_json gate ran with asked | refused
  · cases asked.symm.trans ran'
    rfl
  · cases refused.symm.trans ran'

/-- Arguments that give the sample options. -/
theorem sample_ran :
    ofArguments {} ["docs-drift", "--root", "/p", "--allowlist=docs/a*",
      "--baseline-version=1.2.3"] = .run (.docsDrift sampleOptions false) := by
  have command : programGrammar.read {} ["docs-drift", "--root", "/p", "--allowlist=docs/a*",
      "--baseline-version=1.2.3"] = .subcommand "docs-drift" ["--root", "/p",
        "--allowlist=docs/a*", "--baseline-version=1.2.3"] :=
    Grammar.read_subcommand (by decide) (by decide)
  have root : Argument.ofText "--root" = .long "root" none := by decide
  have allowlist : Argument.ofText "--allowlist=docs/a*" = .long "allowlist" (some "docs/a*") := by
    decide
  have version : Argument.ofText "--baseline-version=1.2.3" =
      .long "baseline-version" (some "1.2.3") := by decide
  have accepts : driftGrammar.Accepts {} ["--root", "/p", "--allowlist=docs/a*",
      "--baseline-version=1.2.3"] (.finished { values := [("root", "/p"),
        ("allowlist", "docs/a*"), ("baseline-version", "1.2.3")] }) :=
    .separate root rfl rfl (by decide) <| .attached allowlist rfl rfl <|
      .attached version rfl rfl <| .finished _
  unfold ofArguments
  rw [command]
  dsimp only
  rw [ofCommand_docsDrift, accepts.read_eq]
  rfl

/-- A run of the drift gate over a project. -/
theorem sample_reports_agree :
    ((Command.docsDrift sampleOptions false).perform.inside DriftRun.sampleProject).status ≠
      .fatal ∧
    SameReport ((Command.docsDrift sampleOptions false).perform.inside DriftRun.sampleProject)
      ((Command.docsDrift sampleOptions true).perform.inside DriftRun.sampleProject) := by
  exact ⟨sample_docsDrift false, (reports_agree DriftRun.sampleProject sample_ran rfl).2.2⟩

end Invocation
end QualityGates.CommandLine
