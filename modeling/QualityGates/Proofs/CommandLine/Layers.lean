import QualityGates.Proofs.CommandLine.Reports
import QualityGates.Proofs.Config.Drift

/-!
# Layers of the drift options

The release version and the stale versions may be given by an option, by a variable that stands in
for the option, and by the configuration file. The option and the variable become one setting before
anything is known about blanks, so a blank option hides its variable, but it does not hide the file.
-/

namespace QualityGates.CommandLine

/-- The options of a command for documents. -/
def Command.driftOptions? : Command → Option DriftOptions
  | docsDrift o _ | listRules o _ => some o
  | benchRegression .. | coverageSummary .. => none

/-- What the arguments of a command for documents give, and what the configuration file does. -/
structure ReadsLayers (s : Surroundings) (args : List String) (given : Matches)
    (file : ConfigFile) : Prop where
  /-- The arguments behind the name of the command. -/
  arguments : ∃ name rest, programGrammar.read {} args = .subcommand name rest ∧
    driftGrammar.read {} rest = .finished given
  /-- The configuration file that is named, or the one of the project if it is there. -/
  file : (loadConfig (given.value? "config") (some (Layout.ofRoot
    ((resolveRoot ((given.value? "root").getD ".")).inside s)).config)).inside s = .ok file

/-- Whether a version is given that is blank. -/
def BlankVersion (version : Option String) : Prop :=
  ∃ text, version = some text ∧ ∀ c ∈ text.toList, Text.isBlank c = true

/-- Whether a list is given that has no entries. -/
def BlankList (list : Option String) : Prop :=
  ∃ text, list = some text ∧ Text.commaList text = []

/-- Arguments give one thing only. -/
theorem ReadsLayers.given_eq {s : Surroundings} {args rest : List String} {name : String}
    {given given' : Matches} {file : ConfigFile} (reads : ReadsLayers s args given file)
    (command : programGrammar.read {} args = .subcommand name rest)
    (read : driftGrammar.read {} rest = .finished given') : given = given' := by
  obtain ⟨name', rest', command', read'⟩ := reads.arguments
  cases command.symm.trans command'
  exact Reading.finished.inj (read'.symm.trans read)

namespace Invocation

variable {s : Surroundings} {env : Environment} {name : String} {args : List String} {c : Command}
  {o : DriftOptions} {config : DriftConfig}

/-- A command for documents has the options that its arguments and the environment give. -/
theorem ofCommand_drift (drift : c.driftOptions? = some o)
    (ran : ofCommand env name args = .run c) :
    ∃ given, driftGrammar.read {} args = .finished given ∧ o = .ofMatches env given := by
  unfold ofCommand at ran
  split at ran
  · obtain ⟨given, read, ⟨⟩⟩ := ofReading_run_iff.mp ran
    exact ⟨given, read, (Option.some.inj drift).symm⟩
  · obtain ⟨given, read, ⟨⟩⟩ := ofReading_run_iff.mp ran
    exact ⟨given, read, (Option.some.inj drift).symm⟩
  · obtain ⟨given, _, built⟩ := ofReading_run_iff.mp ran
    obtain ⟨options, _, rfl⟩ := Option.map_eq_some_iff.mp built
    cases drift
  · obtain ⟨given, _, ⟨⟩⟩ := ofReading_run_iff.mp ran
    cases drift
  · split at ran
    · unfold ofHelp at ran
      split at ran
      · cases ran
      · split at ran <;> cases ran
      · cases ran
    · cases ran

/-- The version is that of the options, or else that of the file. -/
theorem baselineOverride_driftSteps (root : Path) (o : DriftOptions) (file : ConfigFile) :
    (DriftConfig.ofSteps root (driftSteps o file)).baselineOverride =
      firstVersion [o.baselineVersion, file.drift.baselineVersion] := by
  rw [DriftConfig.ofSteps_baselineOverride]
  show firstVersion [none, none, o.baselineVersion, none, file.drift.baselineVersion] = _
  cases o.baselineVersion <;> rfl

/-- The stale versions are those of the options, or else those of the file. -/
theorem staleVersions_driftSteps (root : Path) (o : DriftOptions) (file : ConfigFile) :
    (DriftConfig.ofSteps root (driftSteps o file)).staleVersions =
      firstLiterals [entriesOf o.staleVersions, file.drift.staleVersions] := by
  rw [DriftConfig.ofSteps_staleVersions]
  show firstLiterals [[], entriesOf o.staleVersions, [], [], file.drift.staleVersions] = _
  cases entriesOf o.staleVersions <;> rfl

/-- A blank option leaves the version to the file, and any other one leaves it to its variable
first. -/
theorem firstVersion_or (option standIn : Option String) (lower : List (Option String)) :
    (BlankVersion option → firstVersion (option.or standIn :: lower) = firstVersion lower) ∧
      (¬ BlankVersion option →
        firstVersion (option.or standIn :: lower) = firstVersion (option :: standIn :: lower)) := by
  cases option with
  | none => exact ⟨nofun, fun _ => rfl⟩
  | some version =>
    have blank : BlankVersion (some version) ↔ version.toList.all Text.isBlank = true := by
      rw [List.all_eq_true]
      exact ⟨fun ⟨_, same, all⟩ => Option.some.inj same ▸ all, fun all => ⟨version, rfl, all⟩⟩
    rw [blank]
    refine ⟨fun all => if_pos all, fun some => ?_⟩
    rw [Option.some_or, firstVersion, firstVersion, if_neg some, if_neg some]

/-- An option without entries leaves the literals to the file, and any other one leaves them to its
variable first. -/
theorem firstLiterals_or (option standIn : Option String) (lower : List (List String)) :
    (BlankList option → firstLiterals (entriesOf (option.or standIn) :: lower) =
        firstLiterals lower) ∧
      (¬ BlankList option → firstLiterals (entriesOf (option.or standIn) :: lower) =
        firstLiterals (entriesOf option :: entriesOf standIn :: lower)) := by
  cases option with
  | none => exact ⟨nofun, fun _ => rfl⟩
  | some list =>
    have entries : entriesOf (some list) = Text.commaList list := rfl
    rw [Option.some_or, entries]
    constructor
    · rintro ⟨_, ⟨⟩, nothing⟩
      rw [nothing]
      rfl
    · intro filled
      have some : (Text.commaList list).isEmpty = false := by
        rw [← Bool.not_eq_true, List.isEmpty_iff]
        exact fun nothing => filled ⟨list, rfl, nothing⟩
      rw [firstLiterals_cons, firstLiterals_cons, some]
      rfl

/-- The configuration of a command for documents has the first version that is not blank, of that in
the option, that in its variable and that in the file, unless the option is given and blank: then it
has the one in the file, if any. Stale versions come the same way from the first list with entries.
-/
theorem layered_versions (ran : ofArguments env args = .run c) (drift : c.driftOptions? = some o)
    (layered : (driftConfig o).inside s = .ok config) :
    ∃ given file, ReadsLayers s args given file ∧
      (BlankVersion (given.value? "baseline-version") →
        config.baselineOverride = firstVersion [file.drift.baselineVersion]) ∧
      (¬ BlankVersion (given.value? "baseline-version") →
        config.baselineOverride = firstVersion
          [given.value? "baseline-version", env.baselineVersion, file.drift.baselineVersion]) ∧
      (BlankList (given.value? "stale-versions") →
        config.staleVersions = firstLiterals [file.drift.staleVersions]) ∧
      (¬ BlankList (given.value? "stale-versions") →
        config.staleVersions = firstLiterals
          [entriesOf (given.value? "stale-versions"), entriesOf env.staleVersions,
            file.drift.staleVersions]) := by
  obtain ⟨name, rest, command, carried⟩ := ofArguments_run ran
  obtain ⟨given, read, rfl⟩ := ofCommand_drift drift carried
  rw [inside_driftConfig] at layered
  obtain ⟨file, loaded, rfl⟩ := Except.map_eq_ok_iff.mp layered
  rw [baselineOverride_driftSteps, staleVersions_driftSteps]
  exact ⟨given, file, ⟨⟨name, rest, command, read⟩, loaded⟩,
    (firstVersion_or _ _ _).1, (firstVersion_or _ _ _).2,
    (firstLiterals_or _ _ _).1, (firstLiterals_or _ _ _).2⟩

/-- A project whose configuration file gives a version. -/
def layeredProject : Surroundings where
  tree := ⟨[(["p", "README.md"], .file "x".toUTF8),
    (["p", "ci-gates.yaml"], .file "docs_drift:\n  baseline_version: ' 2.0.0 '\n".toUTF8)]⟩
  workingDirectory := ["p"]

/-- Variables for both settings. -/
def bothVariables : Environment where
  baselineVersion := some "1.2.3"
  staleVersions := some "1.0, ,1.1"

/-- Arguments with a blank version. -/
def blankArguments : List String :=
  ["list-rules", "--baseline-version", " "]

/-- What arguments with a blank version give. -/
def blankGiven : Matches where
  values := [("baseline-version", " ")]

/-- The name of the command is read first, and the options behind it. -/
theorem blankArguments_read :
    programGrammar.read {} blankArguments =
      .subcommand "list-rules" ["--baseline-version", " "] ∧
    driftGrammar.read {} ["--baseline-version", " "] = .finished blankGiven := by
  have version : Argument.ofText "--baseline-version" = .long "baseline-version" none := by decide
  have accepts : driftGrammar.Accepts {} ["--baseline-version", " "] (.finished blankGiven) :=
    .separate version rfl rfl (by decide) <| .finished _
  exact ⟨Grammar.read_subcommand (by decide) (by decide), accepts.read_eq⟩

/-- A blank version is an option of the listing. -/
theorem blankArguments_ran : ofArguments bothVariables blankArguments =
    .run (.listRules (.ofMatches bothVariables blankGiven) false) := by
  unfold ofArguments
  rw [blankArguments_read.1]
  dsimp only
  rw [ofCommand_listRules, blankArguments_read.2]
  rfl

/-- The configuration that a blank version leads to. -/
def blankConfig : DriftConfig where
  layout := .ofRoot ⟨"/p"⟩
  baselineOverride := some "2.0.0"
  staleVersions := ["1.0", "1.1"]

/-- What the configuration file gives. -/
def layeredFile : ConfigFile where
  drift := { baselineVersion := some " 2.0.0 " }

/-- The configuration file of the project is read. -/
theorem layeredFile_loaded :
    (loadConfig none (some (Layout.ofRoot ((resolveRoot ".").inside layeredProject)).config)).inside
      layeredProject = .ok layeredFile := by
  rfl

/-- A blank version and the other settings are layered. -/
theorem blankConfig_layered :
    (driftConfig (.ofMatches bothVariables blankGiven)).inside layeredProject =
      .ok blankConfig := by
  rfl

/-- The version is blank, and the list is not given. -/
theorem blankGiven_blank : BlankVersion (blankGiven.value? "baseline-version") ∧
    ¬ BlankList (blankGiven.value? "stale-versions") := by
  have blank : " ".toList.all Text.isBlank = true := by decide
  refine ⟨⟨" ", rfl, List.all_eq_true.mp blank⟩, ?_⟩
  rintro ⟨_, ⟨⟩, _⟩

/-- A blank version hides its variable, so the file gives the version, and the other variable gives
the stale versions. -/
theorem blankVersion_layered :
    ofArguments bothVariables blankArguments =
      .run (.listRules (.ofMatches bothVariables blankGiven) false) ∧
    (driftConfig (.ofMatches bothVariables blankGiven)).inside layeredProject = .ok blankConfig ∧
    ∃ file, ReadsLayers layeredProject blankArguments blankGiven file ∧
      blankConfig.baselineOverride = firstVersion [file.drift.baselineVersion] ∧
      blankConfig.staleVersions = firstLiterals
        [[], entriesOf bothVariables.staleVersions, file.drift.staleVersions] := by
  obtain ⟨given, file, reads, version, _, _, literals⟩ :=
    layered_versions blankArguments_ran rfl blankConfig_layered
  obtain rfl := reads.given_eq blankArguments_read.1 blankArguments_read.2
  exact ⟨blankArguments_ran, blankConfig_layered, file, reads, version blankGiven_blank.1,
    literals blankGiven_blank.2⟩

/-- A blank version hides a variable that is set, so the configuration need not have the first
version that is not blank, of that in the option, that in its variable and that in the file. -/
theorem blankVersion_hides_variable : ¬ ∀ (s : Surroundings) (env : Environment)
    (args : List String) (c : Command) (o : DriftOptions) (config : DriftConfig) (given : Matches)
    (file : ConfigFile), ofArguments env args = .run c → c.driftOptions? = some o →
      (driftConfig o).inside s = .ok config → ReadsLayers s args given file →
        config.baselineOverride = firstVersion
          [given.value? "baseline-version", env.baselineVersion, file.drift.baselineVersion] ∧
        config.staleVersions = firstLiterals
          [entriesOf (given.value? "stale-versions"), entriesOf env.staleVersions,
            file.drift.staleVersions] := by
  intro precedence
  have reads : ReadsLayers layeredProject blankArguments blankGiven layeredFile :=
    ⟨⟨_, _, blankArguments_read.1, blankArguments_read.2⟩, layeredFile_loaded⟩
  have hidden := (precedence layeredProject bothVariables blankArguments _ _ blankConfig blankGiven
    layeredFile blankArguments_ran rfl blankConfig_layered reads).1
  exact absurd hidden (by decide)

end Invocation
end QualityGates.CommandLine
