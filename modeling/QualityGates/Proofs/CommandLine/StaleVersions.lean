import QualityGates.Proofs.CommandLine.Layers
import QualityGates.Proofs.Rule.BlankLiterals

/-!
# Lines with stale versions

Where stale versions are given, checking documents reports the lines in which one of them stands. An
option and its variable never give a blank one, since the entries of a comma list are trimmed and
kept if anything is left. The list in the configuration file is taken over as it stands. A blank
entry of it takes part like any other one, and lines are reported for it in which no other entry
stands.
-/

namespace QualityGates

namespace DriftRun

open Drift

variable {s : Surroundings} {c : DriftConfig} {run : DriftRun} {location : String}

/-- A line of a document that is checked, by the location that it is reported at. -/
def CheckedLine (s : Surroundings) (c : DriftConfig) (location line : String) : Prop :=
  ∃ paths allowlist, (Targets.paths c.layout).inside s = .ok paths ∧
    Allowlist.ofPatterns c.allowlist = .ok allowlist ∧
    ∃ path ∈ keptPaths c.layout allowlist paths, ∃ position cs,
      LineAt s path position cs ∧ line = String.ofList cs ∧
      location = c.layout.relative path ++ ":" ++ Number.natText (position + 1)

/-- With literal versions, the rule for stale versions is the only one of its name. -/
theorem forDocs_getElem?_stale {baseline : Option Version} {literals : List String}
    (present : literals ≠ []) {position : Nat} {rule : Rule}
    (found : (Rule.forDocs baseline literals)[position]? = some rule)
    (same : rule.id = Rule.staleVersionId) : rule = .ofLiterals baseline literals := by
  rw [Rule.forDocs_of_literals present] at found
  have member := List.mem_of_getElem? found
  simp only [List.mem_cons, List.not_mem_nil, or_false] at member
  rcases member with rfl | rfl | rfl
  · rfl
  · exact absurd same (by decide)
  · exact absurd same (by decide)

/-- A run with literal versions reports a stale version at the locations of the lines that it has a
literal to report for. -/
theorem stale_findings_iff (done : ((ofConfig c).inside s).result = .ok run)
    (present : c.staleVersions ≠ []) :
    (∃ f ∈ run.verdict.findings, f.ruleId = Rule.staleVersionId ∧ f.location = location) ↔
      ∃ line, CheckedLine s c location line ∧
        ∃ text ∈ c.staleVersions, Rule.ReportedFor line text := by
  obtain ⟨allowlist, paths, targets, _, listed, made, found, read, built⟩ := result_ok done
  obtain ⟨documents, _⟩ := Targets.read_ok read
  rw [(RuleSet.forDocs_eq_ok_iff.mp made).2] at built
  have reported (f : Finding) : f ∈ run.verdict.findings ↔ ∃ place,
      FoundAt s c.layout (keptPaths c.layout allowlist paths)
        (Rule.forDocs run.baseline c.staleVersions) place f := by
    rw [built]
    exact mem_findings_iff documents
  simp only [reported, ← Rule.standsIn_iff_reportedFor]
  constructor
  · rintro ⟨f, ⟨place, path, cs, rule, atPath, there, atRule, flagged, rfl⟩, stale, rfl⟩
    obtain rfl := forDocs_getElem?_stale present atRule stale
    exact ⟨_, ⟨paths, allowlist, found, listed, path, List.mem_of_getElem? atPath, _, cs, there,
      rfl, rfl⟩, (Rule.ofLiterals_flags_iff present).mp flagged⟩
  · rintro ⟨_, ⟨paths', allowlist', found', listed', path, kept, position, cs, there, rfl, rfl⟩,
      stands⟩
    cases found.symm.trans found'
    cases listed.symm.trans listed'
    obtain ⟨i, atPath⟩ := List.mem_iff_getElem?.mp kept
    have atRule : (Rule.forDocs run.baseline c.staleVersions)[0]? =
        some (.ofLiterals run.baseline c.staleVersions) := by
      rw [Rule.forDocs_of_literals present]
      rfl
    have flagged : (Rule.ofLiterals run.baseline c.staleVersions).flags (String.ofList cs) = true :=
      (Rule.ofLiterals_flags_iff present).mpr stands
    exact ⟨_, ⟨(i, position, 0), path, cs, _, atPath, there, atRule, flagged, rfl⟩, rfl, rfl⟩

end DriftRun

namespace CommandLine

namespace Invocation

open Text (AllBlank)
open DriftRun (CheckedLine)

variable {s : Surroundings} {env : Environment} {args : List String} {o : DriftOptions}
  {json : Bool} {config : DriftConfig} {run : DriftRun} {literals lower : List String}
  {text : String}

/-- What may be given on the command line has no blank entries. -/
theorem not_allBlank_of_mem_entriesOf {list : Option String} (member : text ∈ entriesOf list) :
    ¬ AllBlank text := by
  cases list with
  | none => exact absurd member List.not_mem_nil
  | some list => exact Text.not_allBlank_of_mem_commaList member

/-- A literal of two layers is one of the upper layer, or else one of the lower one. -/
theorem mem_firstLiterals_pair (member : text ∈ firstLiterals [literals, lower]) :
    text ∈ literals ∨ literals = [] ∧ text ∈ lower := by
  rw [firstLiterals_cons, firstLiterals_cons] at member
  cases literals with
  | nil =>
    cases lower with
    | nil => exact absurd member List.not_mem_nil
    | cons next lower => exact .inr ⟨rfl, member⟩
  | cons next literals => exact .inl member

/-- With stale versions, checking documents reports exactly the lines in which one of them stands:
one that says something, or an empty one where there is a word, or one of blanks where these
separate two words. The stale versions are the entries of the option or of its variable, or else
those of the configuration file as they stand there. So an entry that is blank is one of the file,
and without such an entry, an entry that says something stands in every line that is reported. -/
theorem stale_lines_exact (ran : ofArguments env args = .run (.docsDrift o json))
    (layered : (driftConfig o).inside s = .ok config)
    (done : ((DriftRun.ofConfig config).inside s).result = .ok run)
    (present : config.staleVersions ≠ []) :
    ∃ given file, ReadsLayers s args given file ∧
      config.staleVersions = firstLiterals
        [entriesOf ((given.value? "stale-versions").or env.staleVersions),
          file.drift.staleVersions] ∧
      (∀ text ∈ config.staleVersions, AllBlank text →
        entriesOf ((given.value? "stale-versions").or env.staleVersions) = [] ∧
          text ∈ file.drift.staleVersions) ∧
      ∀ location,
        (∃ f ∈ run.verdict.findings, f.ruleId = "stale-version" ∧ f.location = location) ↔
          ∃ line, CheckedLine s config location line ∧
            ∃ text ∈ config.staleVersions, Rule.ReportedFor line text := by
  obtain ⟨name, rest, command, carried⟩ := ofArguments_run ran
  obtain ⟨given, read, rfl⟩ := ofCommand_drift rfl carried
  rw [inside_driftConfig] at layered
  obtain ⟨file, loaded, rfl⟩ := Except.map_eq_ok_iff.mp layered
  refine ⟨given, file, ⟨⟨name, rest, command, read⟩, loaded⟩, staleVersions_driftSteps _ _ _, ?_,
    fun location => DriftRun.stale_findings_iff done present⟩
  intro text member blank
  rw [staleVersions_driftSteps] at member
  rcases mem_firstLiterals_pair member with given | ofFile
  · exact absurd blank (not_allBlank_of_mem_entriesOf given)
  · exact ofFile

/-- A project whose configuration file gives an empty stale version besides another one. -/
def emptyLiteralProject : Surroundings where
  tree := ⟨[(["p", "README.md"], .file "hello".toUTF8),
    (["p", "ci-gates.yaml"], .file "docs_drift:\n  stale_versions: ['', '9.9']\n".toUTF8)]⟩
  workingDirectory := ["p"]

/-- Arguments that give the release version. -/
def versionArguments : List String :=
  ["docs-drift", "--baseline-version", "1.2.3"]

/-- What the arguments give. -/
def versionGiven : Matches where
  values := [("baseline-version", "1.2.3")]

/-- The configuration of the project. -/
def emptyLiteralConfig : DriftConfig where
  layout := .ofRoot ⟨"/p"⟩
  baselineOverride := some "1.2.3"
  staleVersions := ["", "9.9"]

/-- The name of the command is read first, and the option behind it. -/
theorem versionArguments_read :
    programGrammar.read {} versionArguments =
      .subcommand "docs-drift" ["--baseline-version", "1.2.3"] ∧
    driftGrammar.read {} ["--baseline-version", "1.2.3"] = .finished versionGiven := by
  have version : Argument.ofText "--baseline-version" = .long "baseline-version" none := by decide
  have accepts : driftGrammar.Accepts {} ["--baseline-version", "1.2.3"] (.finished versionGiven) :=
    .separate version rfl rfl (by decide) <| .finished _
  exact ⟨Grammar.read_subcommand (by decide) (by decide), accepts.read_eq⟩

/-- The arguments ask for the documents to be checked. -/
theorem versionArguments_ran : ofArguments {} versionArguments =
    .run (.docsDrift (.ofMatches {} versionGiven) false) := by
  unfold ofArguments
  rw [versionArguments_read.1]
  dsimp only
  rw [ofCommand_docsDrift, versionArguments_read.2]
  rfl

/-- The empty stale version is taken over. -/
theorem emptyLiteralConfig_layered :
    (driftConfig (.ofMatches {} versionGiven)).inside emptyLiteralProject =
      .ok emptyLiteralConfig := by
  rfl

/-- The readme is the only document. -/
theorem emptyLiteral_paths :
    (Drift.Targets.paths emptyLiteralConfig.layout).inside emptyLiteralProject =
      .ok [⟨"/p/README.md"⟩] := by
  have files : (emptyLiteralProject.tree.filesBelow emptyLiteralProject.workingDirectory
      emptyLiteralConfig.layout.docs).filter Path.isMarkdown = [] := rfl
  exact Drift.inside_paths_of_sorted files .nil

/-- The project is checked up to a verdict. -/
theorem emptyLiteral_completes :
    ((DriftRun.ofConfig emptyLiteralConfig).inside emptyLiteralProject).result.isOk = true := by
  have release : ((Release.resolve emptyLiteralConfig.baselineOverride
      emptyLiteralConfig.layout.manifest).inside emptyLiteralProject).result =
      .ok (some ⟨1, 2, 3⟩) := rfl
  have small : Rule.SmallEnough emptyLiteralConfig.staleVersions := by decide
  rw [DriftRun.result_of_resolved release, DriftRun.inside_withBaseline,
    RuleSet.forDocs_of_smallEnough small, emptyLiteral_paths]
  decide +kernel

/-- The readme has one line. -/
theorem emptyLiteral_lineAt_iff {position : Nat} {cs : List Char} :
    Drift.LineAt emptyLiteralProject ⟨"/p/README.md"⟩ position cs ↔
      position = 0 ∧ cs = "hello".toList := by
  have content : (Lookup.text ⟨"/p/README.md"⟩).inside emptyLiteralProject = .ok "hello" := rfl
  have only : Text.Lines "hello".toList ["hello".toList] := .last (by decide) (by decide)
  constructor
  · rintro ⟨text, lines, found, made, there⟩
    obtain rfl := Except.ok.inj (content.symm.trans found)
    rw [← made.lines_eq, only.lines_eq] at there
    cases position with
    | zero => exact ⟨rfl, (Option.some.inj there).symm⟩
    | succ position => cases there
  · rintro ⟨rfl, rfl⟩
    exact ⟨_, _, content, only, rfl⟩

/-- One line of the project is checked. -/
theorem emptyLiteral_checkedLine_iff {location line : String} :
    CheckedLine emptyLiteralProject emptyLiteralConfig location line ↔
      location = "README.md:1" ∧ line = "hello" := by
  have kept : Drift.keptPaths emptyLiteralConfig.layout .empty [⟨"/p/README.md"⟩] =
      [⟨"/p/README.md"⟩] := rfl
  have place : emptyLiteralConfig.layout.relative ⟨"/p/README.md"⟩ ++ ":" ++
      Number.natText (0 + 1) = "README.md:1" := rfl
  constructor
  · rintro ⟨paths, allowlist, found, listed, path, member, position, cs, there, rfl, rfl⟩
    cases emptyLiteral_paths.symm.trans found
    cases listed
    obtain rfl := List.mem_singleton.mp (kept ▸ member)
    obtain ⟨rfl, rfl⟩ := emptyLiteral_lineAt_iff.mp there
    exact ⟨place, String.ofList_toList⟩
  · rintro ⟨rfl, rfl⟩
    have member := kept ▸ List.mem_singleton_self (⟨"/p/README.md"⟩ : Path)
    exact ⟨_, _, emptyLiteral_paths, rfl, _, member, 0, _, emptyLiteral_lineAt_iff.mpr ⟨rfl, rfl⟩,
      String.ofList_toList.symm, place.symm⟩

/-- There is a word in the line, so the empty entry stands in it. -/
theorem emptyLiteral_reason :
    ∃ line, CheckedLine emptyLiteralProject emptyLiteralConfig "README.md:1" line ∧
      ∃ text ∈ emptyLiteralConfig.staleVersions, Rule.ReportedFor line text := by
  have word : Rule.ReportedFor "hello" "" := .empty ⟨'h', by decide, by decide⟩
  exact ⟨"hello", emptyLiteral_checkedLine_iff.mpr ⟨rfl, rfl⟩, "", List.mem_cons_self, word⟩

/-- An empty entry of the configuration file is among the stale versions, and the line with a word
is reported for it. -/
theorem emptyLiteral_reported :
    ofArguments {} versionArguments = .run (.docsDrift (.ofMatches {} versionGiven) false) ∧
    (driftConfig (.ofMatches {} versionGiven)).inside emptyLiteralProject =
      .ok emptyLiteralConfig ∧
    emptyLiteralConfig.staleVersions ≠ [] ∧
    ∃ run, ((DriftRun.ofConfig emptyLiteralConfig).inside emptyLiteralProject).result = .ok run ∧
      ∃ f ∈ run.verdict.findings, f.ruleId = "stale-version" ∧ f.location = "README.md:1" := by
  obtain ⟨run, done⟩ := Except.exists_of_isOk emptyLiteral_completes
  have present : emptyLiteralConfig.staleVersions ≠ [] := List.cons_ne_nil _ _
  obtain ⟨_, _, _, _, _, reported⟩ :=
    stale_lines_exact versionArguments_ran emptyLiteralConfig_layered done present
  exact ⟨versionArguments_ran, emptyLiteralConfig_layered, present, run, done,
    (reported "README.md:1").mpr emptyLiteral_reason⟩

/-- With an empty stale version, a line is reported that contains no other one. -/
theorem emptyLiteral_not_ignored : ¬ ∀ (s : Surroundings) (env : Environment) (args : List String)
    (o : DriftOptions) (json : Bool) (config : DriftConfig) (run : DriftRun),
    ofArguments env args = .run (.docsDrift o json) → (driftConfig o).inside s = .ok config →
      ((DriftRun.ofConfig config).inside s).result = .ok run → config.staleVersions ≠ [] →
        ∀ f ∈ run.verdict.findings, f.ruleId = "stale-version" →
          ∃ line, CheckedLine s config f.location line ∧
            ∃ text ∈ config.staleVersions, ¬ AllBlank text ∧ Text.occursIn text line = true := by
  intro ignored
  obtain ⟨run, done⟩ := Except.exists_of_isOk emptyLiteral_completes
  have present : emptyLiteralConfig.staleVersions ≠ [] := List.cons_ne_nil _ _
  obtain ⟨f, member, stale, _⟩ :=
    (DriftRun.stale_findings_iff done present).mpr emptyLiteral_reason
  obtain ⟨line, checked, text, given, filled, occurs⟩ := ignored _ _ _ _ _ _ _
    versionArguments_ran emptyLiteralConfig_layered done present f member stale
  obtain rfl := (emptyLiteral_checkedLine_iff.mp checked).2
  rcases List.mem_pair.mp given with rfl | rfl
  · exact filled nofun
  · exact absurd occurs (by decide)

end Invocation
end CommandLine
end QualityGates
