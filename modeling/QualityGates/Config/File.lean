import QualityGates.GateError
import QualityGates.Text.Blank
import QualityGates.Text.Line

/-!
# The configuration file

An optional YAML file with a section for each gate. A file without any content is the empty
configuration.
-/

namespace QualityGates

/-- The section of the drift gate. -/
structure DriftSection where
  allowlist : List String := []
  manifest : Option String := none
  baselineVersion : Option String := none
  staleVersions : List String := []
  deriving DecidableEq, Repr, Inhabited

/-- The section of the benchmark gate. -/
structure RegressionSection where
  flat : Option Float := none
  embedded : Option Float := none
  deriving Inhabited

/-- The contents of a configuration file. -/
structure ConfigFile where
  drift : DriftSection := {}
  regression : RegressionSection := {}
  deriving Inhabited

namespace ConfigFile

open Yaml (Section readOptional readList readText readFloat)

/-- Changes a field by a value that is read. -/
def setField {α β : Type} (read : Yaml.Reader β) (set : α → β → α) (record : α) :
    Yaml.Reader α := fun d path events =>
  match read d path events with
  | .error fault => .error fault
  | .ok (value, rest) => .ok (set record value, rest)

/-- The section of the drift gate in YAML. -/
def driftSection : Section DriftSection where
  name := "DocsDriftSection"
  start := {}
  field := fun name =>
    match name with
    | "allowlist" =>
      some (setField (readList (readText "a string")) (fun s v => { s with allowlist := v }))
    | "manifest" =>
      some (setField (readOptional (readText "a string")) (fun s v => { s with manifest := v }))
    | "baseline_version" =>
      some (setField (readOptional (readText "a string"))
        (fun s v => { s with baselineVersion := v }))
    | "stale_versions" =>
      some (setField (readList (readText "a string")) (fun s v => { s with staleVersions := v }))
    | _ => none

/-- The section of the benchmark gate in YAML. -/
def regressionSection : Section RegressionSection where
  name := "BenchRegressionSection"
  start := {}
  field := fun name =>
    match name with
    | "flat_threshold" =>
      some (setField (readOptional readFloat) (fun s v => { s with flat := v }))
    | "embedded_threshold" =>
      some (setField (readOptional readFloat) (fun s v => { s with embedded := v }))
    | _ => none

/-- The whole file in YAML. -/
def fileSection : Section ConfigFile where
  name := "GatesFile"
  start := {}
  field := fun name =>
    match name with
    | "docs_drift" => some (setField driftSection.reader (fun s v => { s with drift := v }))
    | "bench_regression" =>
      some (setField regressionSection.reader (fun s v => { s with regression := v }))
    | _ => none

/-- Whether a line holds nothing but blanks or a comment. -/
def isVoidLine (line : List Char) : Bool :=
  let text := Text.trim line
  text.isEmpty || text.head? == some '#'

/-- Reads the text of a configuration file. -/
def ofText (path : Path) (text : String) : Except GateError ConfigFile :=
  if (Text.lines text.toList).all isVoidLine then .ok {}
  else (fileSection.ofText text).mapError (GateError.notConfig path)

/-- Loads a configuration file that must exist. -/
def load (path : Path) : Lookup (Except GateError ConfigFile) := do
  return (← Lookup.requiredText path).bind (ofText path)

/-- Loads a configuration file if there is one. -/
def loadIfPresent (path : Path) : Lookup (Except GateError (Option ConfigFile)) := do
  if ← Lookup.question (.isFile path) then return (← load path).map some
  else return .ok none

/-- A list of texts in JSON. -/
def textsJson (texts : List String) : Json :=
  .array (texts.map Json.string)

/-- A member that is left out if it has no value. -/
def optionalMember {α : Type} (name : String) (toJson : α → Json) :
    Option α → List (String × Json)
  | some value => [(name, toJson value)]
  | none => []

/-- The configuration in JSON. -/
def toJson (f : ConfigFile) : Json :=
  let float (x : Float) : Json := .number (.float x)
  .object
    [("docs_drift",
      .object
        ([("allowlist", textsJson f.drift.allowlist)] ++
          optionalMember "manifest" .string f.drift.manifest ++
          optionalMember "baseline_version" .string f.drift.baselineVersion ++
          [("stale_versions", textsJson f.drift.staleVersions)])),
      ("bench_regression",
        .object
          (optionalMember "flat_threshold" float f.regression.flat ++
            optionalMember "embedded_threshold" float f.regression.embedded))]

end ConfigFile
end QualityGates
