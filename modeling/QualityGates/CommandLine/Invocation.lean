import QualityGates.CommandLine.Arguments

/-!
# Invocations of the program

The commands of the program with their options. Options of the drift commands that are not given on
the command line may come from the environment.
-/

namespace QualityGates.CommandLine

/-- The variables that stand in for options. -/
structure Environment where
  allowlist : Option String := none
  baselineVersion : Option String := none
  staleVersions : Option String := none
  deriving DecidableEq, Repr, Inhabited

/-- The options of the drift commands. -/
structure DriftOptions where
  root : String := "."
  /-- Globs, separated by commas. -/
  allowlist : Option String := none
  baselineVersion : Option String := none
  /-- Literal versions, separated by commas. -/
  staleVersions : Option String := none
  manifest : Option String := none
  config : Option String := none
  deriving DecidableEq, Repr, Inhabited

/-- The options of the benchmark command. -/
structure RegressionOptions where
  baseline : String
  current : String
  flat : Option Float := none
  embedded : Option Float := none
  config : Option String := none
  deriving Inhabited

/-- A command with its options. -/
inductive Command where
  | docsDrift (o : DriftOptions) (json : Bool)
  | listRules (o : DriftOptions) (json : Bool)
  | benchRegression (o : RegressionOptions) (json : Bool)
  | coverageSummary (report : String) (limit : Nat) (json : Bool)
  deriving Inhabited

/-- What the program is asked for. -/
inductive Invocation where
  | run (c : Command)
  | version
  | help
  | usageError
  deriving Inhabited

/-- The options that every command takes; they concern the log only. -/
def logOptions : List (String × OptionKind) :=
  [("log-level", .text), ("log-json", .flag)]

/-- The options of the drift commands. -/
def driftGrammar : Grammar where
  options :=
    [("root", .text), ("allowlist", .text), ("baseline-version", .text),
      ("stale-versions", .text), ("manifest", .text), ("config", .text), ("json", .flag)] ++
    logOptions

/-- The options of the benchmark command. -/
def regressionGrammar : Grammar where
  options :=
    [("baseline", .text), ("current", .text), ("flat-threshold", .float),
      ("embedded-threshold", .float), ("config", .text), ("json", .flag)] ++
    logOptions

/-- The arguments of the coverage command. -/
def coverageGrammar : Grammar where
  options := [("limit", .count), ("json", .flag)] ++ logOptions
  plain := 1

/-- The names of the commands. -/
def commandNames : List String :=
  ["docs-drift", "list-rules", "bench-regression", "coverage-summary"]

/-- The name of the command that shows help. -/
def helpName : String := "help"

/-- The arguments in front of a command. -/
def programGrammar : Grammar where
  options := logOptions
  subcommands := helpName :: commandNames
  versioned := true

/-- The drift options that were given, completed from the environment. -/
def DriftOptions.ofMatches (env : Environment) (m : Matches) : DriftOptions where
  root := (m.value? "root").getD "."
  allowlist := (m.value? "allowlist").or env.allowlist
  baselineVersion := (m.value? "baseline-version").or env.baselineVersion
  staleVersions := (m.value? "stale-versions").or env.staleVersions
  manifest := m.value? "manifest"
  config := m.value? "config"

/-- The benchmark options that were given; both files have to be named. -/
def RegressionOptions.ofMatches (m : Matches) : Option RegressionOptions :=
  let float (name : String) : Option Float :=
    (m.value? name).bind (fun value => Number.readFloat value.toList)
  match m.value? "baseline", m.value? "current" with
  | some baseline, some current =>
    some
      { baseline, current
        flat := float "flat-threshold"
        embedded := float "embedded-threshold"
        config := m.value? "config" }
  | _, _ => none

/-- Where the coverage report is unless another place is named. -/
def defaultReport : String := "memris-core/target/site/jacoco/jacoco.xml"

/-- How many classes are shown unless another number is named. -/
def defaultLimit : Nat := 20

/-- The coverage command with its arguments. -/
def coverageCommand (m : Matches) : Command :=
  .coverageSummary (m.plain.head?.getD defaultReport)
    (((m.value? "limit").bind (fun value => Number.readPlusWord value.toList)).elim
      defaultLimit UInt64.toNat)
    (m.flag "json")

namespace Invocation

/-- The invocation that the arguments after a command come to. -/
def ofReading (build : Matches → Option Command) : Reading → Invocation
  | .finished m =>
    match build m with
    | some command => .run command
    | none => .usageError
  | .help => .help
  | .version => .version
  | _ => .usageError

/-- The invocation of the help command, which takes the name of at most one command. -/
def ofHelp : List String → Invocation
  | [] => .help
  | [name] => if programGrammar.subcommands.contains name then .help else .usageError
  | _ => .usageError

/-- The invocation of a command with the arguments after it. -/
def ofCommand (env : Environment) (name : String) (args : List String) : Invocation :=
  match name with
  | "docs-drift" =>
    ofReading (fun m => some (.docsDrift (.ofMatches env m) (m.flag "json")))
      (driftGrammar.read {} args)
  | "list-rules" =>
    ofReading (fun m => some (.listRules (.ofMatches env m) (m.flag "json")))
      (driftGrammar.read {} args)
  | "bench-regression" =>
    ofReading
      (fun m => (RegressionOptions.ofMatches m).map (fun o => .benchRegression o (m.flag "json")))
      (regressionGrammar.read {} args)
  | "coverage-summary" =>
    ofReading (fun m => some (coverageCommand m)) (coverageGrammar.read {} args)
  | _ => if name = helpName then ofHelp args else .usageError

/-- The invocation that arguments come to. -/
def ofArguments (env : Environment) (args : List String) : Invocation :=
  match programGrammar.read {} args with
  | .subcommand name rest => ofCommand env name rest
  | .help => .help
  | .version => .version
  | _ => .usageError

end Invocation
end QualityGates.CommandLine
