import QualityGates.CommandLine.Invocation
import QualityGates.Coverage.Summary
import QualityGates.Drift.Run
import QualityGates.Regression.Run
import QualityGates.Report
import QualityGates.Text.Separated

/-!
# Carrying out commands

A command layers its configuration, runs its gate and reports. The outcome holds all that can be
seen of it: the exit status, the output, the warnings, and the error that aborted it.
-/

namespace QualityGates.CommandLine

/-- An error and what was being done when it came up. -/
structure Failure where
  doing : String
  error : GateError

/-- What is shown of a failure. -/
def Failure.text (f : Failure) : String :=
  "error: " ++ f.doing ++ ": " ++ f.error.chain

/-- What can be seen of a command that was carried out. -/
structure Outcome where
  status : ExitStatus
  output : String := ""
  warnings : List Warning := []
  failure : Option Failure := none

namespace Outcome

/-- The outcome of a command that was aborted. -/
def aborted (f : Failure) (warnings : List Warning := []) : Outcome where
  status := .fatal
  warnings := warnings
  failure := some f

/-- The outcome of a command that ends with an output. -/
def finished (status : ExitStatus) (output : String) (warnings : List Warning := []) : Outcome where
  status := status
  output := output
  warnings := warnings

/-- The outcome of a gate with a verdict. -/
def ofVerdict (v : Verdict) (json : Bool) (warnings : List Warning := []) : Outcome :=
  finished v.exitStatus (v.report json) warnings

end Outcome

/-- The directory that a root stands for: the working directory, a place without links, or, where
there is nothing, a path below the working directory. -/
def resolveRoot (root : String) : Lookup Path :=
  if Path.same ⟨root⟩ ⟨"."⟩ then Lookup.question .workingDirectory
  else do
    match ← Lookup.question (.canonical ⟨root⟩) with
    | some path => return path
    | none => return (← Lookup.question .workingDirectory).join ⟨root⟩

/-- The failure to load a configuration file. -/
def configFailure (path : Path) (e : GateError) : Failure :=
  ⟨"Failed to load config file " ++ path.text, e⟩

/-- Loads the configuration file that is named, or else one that may be there. -/
def loadConfig (named : Option String) (fallback : Option Path) :
    Lookup (Except Failure ConfigFile) :=
  match named, fallback with
  | some name, _ => do
    return (← ConfigFile.load ⟨name⟩).mapError (configFailure ⟨name⟩)
  | none, some path => do
    return ((← ConfigFile.loadIfPresent path).map (fun file => file.getD {})).mapError
      (configFailure path)
  | none, none => pure (.ok {})

/-- The entries of a comma list that may not be given. -/
def entriesOf (list : Option String) : List String :=
  (list.map Text.commaList).getD []

/-- The steps from the configuration file up to the command line. -/
def driftSteps (o : DriftOptions) (file : ConfigFile) : List DriftStep :=
  [.fileSection file.drift, .allowlist (entriesOf o.allowlist),
    .baselineOverride o.baselineVersion, .staleVersions (entriesOf o.staleVersions),
    .manifest (o.manifest.map Path.mk)]

/-- The configuration of the drift commands. -/
def driftConfig (o : DriftOptions) : Lookup (Except Failure DriftConfig) := do
  let root ← resolveRoot o.root
  match ← loadConfig o.config (some (Layout.ofRoot root).config) with
  | .error f => return .error f
  | .ok file => return .ok (.ofSteps root (driftSteps o file))

/-- Checks documents. -/
def docsDrift (o : DriftOptions) (json : Bool) : Lookup Outcome := do
  match ← driftConfig o with
  | .error f => return .aborted f
  | .ok config =>
    let run ← DriftRun.ofConfig config
    match run.result with
    | .error e =>
      return .aborted ⟨"Docs drift check aborted for " ++ config.layout.root.text, e⟩ run.warnings
    | .ok drift => return .ofVerdict drift.verdict json run.warnings

/-- The rules that documents would be checked with. -/
structure RuleListing where
  baseline : Option String
  allowlist : List String
  rules : List Rule
  deriving Inhabited

namespace RuleListing

/-- The listing as text. -/
def text (l : RuleListing) : String :=
  let lines :=
    ["Baseline version: " ++ l.baseline.getD "(none)"] ++
      (if l.allowlist.isEmpty then []
        else ["Allow-list: " ++ String.intercalate ", " l.allowlist]) ++
      ["Rules:"] ++ l.rules.map (fun rule => "- " ++ rule.id ++ ": " ++ rule.source)
  String.join (lines.map (fun line => line ++ "\n"))

/-- The listing in JSON. -/
def toJson (l : RuleListing) : Json :=
  .object
    [("baseline", l.baseline.elim .null Json.string),
      ("allowlist", ConfigFile.textsJson l.allowlist),
      ("rules", .array (l.rules.map Rule.toJson))]

/-- The listing in one of the two forms. -/
def report (l : RuleListing) (json : Bool) : String :=
  if json then l.toJson.pretty ++ "\n" else l.text

end RuleListing

/-- The listing for a configuration whose version is known and whose rules are made. -/
def ruleListing (config : DriftConfig) (baseline : Option Version) (rules : List Rule) :
    RuleListing where
  baseline := baseline.map Version.text
  allowlist := config.allowlist
  rules := rules

/-- Lists rules. -/
def listRules (o : DriftOptions) (json : Bool) : Lookup Outcome := do
  match ← driftConfig o with
  | .error f => return .aborted f
  | .ok config =>
    let release ← Release.resolve config.baselineOverride config.layout.manifest
    match release.result with
    | .error e => return .aborted ⟨"Failed to resolve baseline version", e⟩ release.warnings
    | .ok baseline =>
      match RuleSet.forDocs baseline config.staleVersions with
      | .error e => return .aborted ⟨"Failed to build drift rules", e⟩ release.warnings
      | .ok rules =>
        return .finished .pass ((ruleListing config baseline rules).report json) release.warnings

/-- Compares benchmark results. -/
def benchRegression (o : RegressionOptions) (json : Bool) : Lookup Outcome := do
  match ← loadConfig o.config none with
  | .error f => return .aborted f
  | .ok file =>
    let config := RegressionConfig.ofSteps ⟨o.baseline⟩ ⟨o.current⟩
      [.fileSection file.regression, .thresholds o.flat o.embedded]
    match ← Regression.run config with
    | .error e => return .aborted ⟨"Benchmark regression check aborted", e⟩
    | .ok verdict => return .ofVerdict verdict json

/-- Summarizes coverage. -/
def coverageSummary (report : String) (limit : Nat) (json : Bool) : Lookup Outcome := do
  match ← Coverage.summarize ⟨report⟩ with
  | .error e => return .aborted ⟨"Coverage summary failed for " ++ report, e⟩
  | .ok classes => return .finished .pass (Coverage.report limit json classes)

/-- Carries out a command. -/
def Command.perform : Command → Lookup Outcome
  | docsDrift o json => CommandLine.docsDrift o json
  | listRules o json => CommandLine.listRules o json
  | benchRegression o json => CommandLine.benchRegression o json
  | coverageSummary report limit json => CommandLine.coverageSummary report limit json

/-- The version of the program. -/
def programVersion : String := "0.1.0"

/-- The name and the version of the program. -/
def versionText : String := "ci-gates " ++ programVersion ++ "\n"

end QualityGates.CommandLine
