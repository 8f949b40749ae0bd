import QualityGates.Glob.Reader
import QualityGates.Json.Basic
import QualityGates.Json.Cursor
import QualityGates.Json.Printer
import QualityGates.Lookup
import QualityGates.Threshold
import QualityGates.Xml.Basic
import QualityGates.Yaml.Record

/-!
# Errors that abort a gate

A gate is aborted by a configuration that makes no sense or an input that cannot be used. Violations
of a policy are findings and no errors.
-/

namespace QualityGates

/-- Why a JSON document gives no scores. -/
inductive ScoreFault where
  /-- The document is not the expected collection. -/
  | wrongCollection
  /-- The value for a benchmark is neither a number nor a text that holds one. -/
  | notNumber (benchmark : String) (value : Json)

/-- The wording of a value that is no score. -/
def notNumberText (benchmark : String) (value : Json) : String :=
  "score for '" ++ benchmark ++ "' is not a number: " ++ value.compact

/-- The wording of a fault in a baseline. -/
def ScoreFault.baselineText : ScoreFault → String
  | wrongCollection => "baseline must be a JSON object \x7bbenchmark: score\x7d"
  | notNumber benchmark value => notNumberText benchmark value

/-- The wording of a fault in current results. -/
def ScoreFault.resultsText : ScoreFault → String
  | wrongCollection => "current results must be a JSON array"
  | notNumber benchmark value => notNumberText benchmark value

/-- Why a document is no coverage report. -/
inductive CoverageFault where
  | markup (fault : Xml.Fault)
  | unnamedClass
  | missingCount (kind key : String)
  | badCount (kind key raw : String)
  deriving DecidableEq, Repr

/-- The wording of a fault in a coverage report. -/
def CoverageFault.message : CoverageFault → String
  | markup fault => fault.message
  | unnamedClass => "class without a name"
  | missingCount kind key => kind ++ " counter without '" ++ key ++ "'"
  | badCount kind key raw => kind ++ " counter has non-numeric " ++ key ++ "='" ++ raw ++ "'"

/-- An error that aborts a gate. -/
inductive GateError where
  | invalidVersionOverride (raw : String)
  | invalidGlob (glob : String) (fault : GlobFault)
  | invalidPattern (ruleId : String)
  | invalidThreshold (category : Category) (value : Float)
  | missingInput (path : Path)
  | malformedBaseline (path : Path) (fault : ScoreFault)
  | malformedResults (path : Path) (fault : ScoreFault)
  | malformedCoverage (path : Path) (fault : CoverageFault)
  | unreadable (path : Path) (fault : ReadFault)
  | notJson (path : Path) (error : Json.Error)
  | notConfig (path : Path) (fault : Yaml.Fault)

namespace GateError

/-- The wording of what lies behind an error, for errors that pass on the fault of a reader. -/
def cause? : GateError → Option String
  | invalidGlob glob fault => some (fault.report glob)
  | invalidPattern _ => some "the pattern cannot be read"
  | unreadable _ fault => some fault.message
  | notJson _ error => some error.message
  | notConfig _ fault => some (fault.message?.getD "the text is not one YAML document")
  | _ => none

/-- The wording of an error without its cause. -/
def headline : GateError → String
  | invalidVersionOverride raw =>
    "Invalid baseline version override '" ++ raw ++ "'; expected major.minor.patch"
  | invalidGlob glob _ => "Invalid allow-list glob '" ++ glob ++ "'"
  | invalidPattern ruleId => "Invalid rule pattern for '" ++ ruleId ++ "'"
  | invalidThreshold category value =>
    "Invalid " ++ category.text ++ " threshold " ++ Number.plainText value ++
      "; expected a fraction between 0 and 1"
  | missingInput path => "Required input not found: " ++ path.text
  | malformedBaseline path fault =>
    "Malformed baseline " ++ path.text ++ ": " ++ fault.baselineText
  | malformedResults path fault =>
    "Malformed benchmark results " ++ path.text ++ ": " ++ fault.resultsText
  | malformedCoverage path fault =>
    "Malformed coverage report " ++ path.text ++ ": " ++ fault.message
  | unreadable path _ => "Failed to read " ++ path.text
  | notJson path _ => "Failed to parse JSON in " ++ path.text
  | notConfig path _ => "Failed to parse config file " ++ path.text

/-- The wording of an error. -/
def message (e : GateError) : String :=
  match e.cause? with
  | some cause => e.headline ++ ": " ++ cause
  | none => e.headline

/-- The wording of an error with its causes, as it is shown to a user. -/
def chain (e : GateError) : String :=
  match e.cause? with
  | some cause => e.message ++ ": " ++ cause
  | none => e.message

/-- The error for an input that cannot be read. -/
def ofReadFault (path : Path) : ReadFault → GateError
  | .notFound => .missingInput path
  | fault => .unreadable path fault

end GateError

/-- The text of some bytes, which must be UTF-8. -/
def decodeText (bytes : ByteArray) : Except ReadFault String :=
  match String.fromUTF8? bytes with
  | some text => .ok text
  | none => .error .notText

namespace Lookup

/-- Reads the text of a file. -/
def text (p : Path) : Lookup (Except ReadFault String) := do
  return (← question (.bytes p)).bind decodeText

/-- Reads the text of a file that a gate cannot do without. -/
def requiredText (p : Path) : Lookup (Except GateError String) := do
  return (← text p).mapError (GateError.ofReadFault p)

end Lookup
end QualityGates
