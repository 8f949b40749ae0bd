import QualityGates.CommandLine.Execution

/-!
# The program

Carries out the command that the arguments name on the files of this machine.
-/

namespace QualityGates.Program

open CommandLine (Command Environment Invocation Outcome)

/-- The fault that an error of the machine stands for. -/
def faultOf (e : IO.Error) : ReadFault :=
  match e with
  | .noFileOrDirectory _ _ _ => .notFound
  | .noSuchThing _ _ _ => .notFound
  | .inappropriateType _ 20 _ => .notDirectory
  | .inappropriateType _ 21 _ => .isDirectory
  | other => .other (toString other)

/-- Reads the bytes of a file. -/
def readBytes (p : Path) : IO (Except ReadFault ByteArray) := do
  try
    return .ok (← IO.FS.readBinFile p.text)
  catch e =>
    return .error (faultOf e)

/-- The path of a place without links, if something is there. -/
def canonical (p : Path) : IO (Option Path) := do
  try
    return some ⟨(← IO.FS.realPath p.text).toString⟩
  catch _ =>
    return none

/-- Whether a path leads to a file or to a directory. -/
def kindOf (p : Path) : IO (Option IO.FS.FileType) := do
  try
    return some (← (← IO.FS.realPath p.text).metadata).type
  catch _ =>
    return none

/-- Lists the files below a directory at most `depth` levels deep. -/
def filesBelow : (depth : Nat) → Path → IO (List Path)
  | 0, _ => return []
  | depth + 1, p => do
    let mut files := []
    for entry in ← (← IO.FS.realPath p.text).readDir do
      let path := p.child entry.fileName
      match (← entry.path.symlinkMetadata).type with
      | .dir => files := files ++ (← filesBelow depth path)
      | .file => files := files ++ [path]
      | _ => pure ()
    return files

/-- How deep directories are listed; paths of the machine are shorter. -/
def listingDepth : Nat := 4096

/-- Answers a question from the files of this machine. -/
def answer : (q : Question) → IO (Answer q)
  | .bytes p => readBytes p
  | .isFile p => do
    match ← kindOf p with
    | some .file => return true
    | _ => return false
  | .isDirectory p => do
    match ← kindOf p with
    | some .dir => return true
    | _ => return false
  | .canonical p => canonical p
  | .workingDirectory => do
    return ⟨(← IO.currentDir).toString⟩
  | .filesBelow p => do
    try
      return .ok (← filesBelow listingDepth p)
    catch e =>
      return .error (p, faultOf e)

/-- Carries out a procedure on this machine. -/
def carryOut {α : Type} : Lookup α → IO α
  | .done value => return value
  | .ask q next => do
    carryOut (next (← answer q))

/-- The line of the log that shows a warning. -/
def warningLine (w : Warning) : String :=
  "WARN " ++ w.message ++
    String.join (w.fields.map (fun (name, value) => " " ++ name ++ "=" ++ value))

/-- The variables that stand in for options. -/
def environment : IO Environment := do
  return {
    allowlist := ← IO.getEnv "DOCS_DRIFT_ALLOWLIST"
    baselineVersion := ← IO.getEnv "DOCS_DRIFT_BASELINE_VERSION"
    staleVersions := ← IO.getEnv "DOCS_DRIFT_STALE_VERSIONS" }

/-- What is shown of the arguments that the program takes. -/
def usageText : String :=
  "Usage: ci-gates [--log-level <LEVEL>] [--log-json] <COMMAND>\n\n" ++
    "Commands: docs-drift, list-rules, bench-regression, coverage-summary, help\n"

/-- Shows the outcome of a command. -/
def present (o : Outcome) : IO UInt32 := do
  for warning in o.warnings do
    IO.eprintln (warningLine warning)
  IO.print o.output
  match o.failure with
  | some failure => IO.eprintln failure.text
  | none => pure ()
  return UInt32.ofNat o.status.code

/-- Does what an invocation asks for. -/
def invoke : Invocation → IO UInt32
  | .run command => do
    present (← carryOut command.perform)
  | .version => do
    IO.print CommandLine.versionText
    return 0
  | .help => do
    IO.print usageText
    return 0
  | .usageError => do
    IO.eprint usageText
    return 2

end QualityGates.Program

/-- The program. -/
def main (args : List String) : IO UInt32 := do
  QualityGates.Program.invoke
    (QualityGates.CommandLine.Invocation.ofArguments (← QualityGates.Program.environment) args)
