import QualityGates.Json.Printer
import QualityGates.Json.Record
import QualityGates.Verdict

/-!
# Reports

A verdict is reported as text, with a line for each finding, or as JSON, which can be read back. A
report is a function of the verdict alone.
-/

namespace QualityGates

/-- The line that reports a finding. -/
def Finding.line (f : Finding) : String :=
  f.location ++ ": [" ++ f.ruleId ++ "] " ++ f.message

namespace Verdict

/-- The number of targets, a machine word in every report. -/
def count (v : Verdict) : UInt64 :=
  UInt64.ofNat v.targetsExamined

/-- The lines that report a verdict. -/
def lines (v : Verdict) : List String :=
  if v.passed then
    [v.gate.title ++ " passed (" ++ Number.natText v.count.toNat ++ " " ++ v.gate.noun ++
      " checked)."]
  else (v.gate.title ++ " failed:") :: v.findings.map Finding.line

/-- The text report. -/
def textReport (v : Verdict) : String :=
  String.join (v.lines.map (fun line => line ++ "\n"))

end Verdict

/-! ## Structured reports -/

/-- A float in a structured report. -/
def floatJson (x : Float) : Json :=
  .number (.float x)

/-- The figures of a regression in a structured report. -/
def RegressionDetail.toJson (d : RegressionDetail) : Json :=
  .object
    [("baseline", floatJson d.baseline), ("current", floatJson d.current),
      ("regression", floatJson d.regression), ("allowed", floatJson d.allowed)]

/-- A finding in a structured report. -/
def Finding.toJson (f : Finding) : Json :=
  .object
    ([("location", .string f.location), ("rule_id", .string f.ruleId),
      ("message", .string f.message)] ++
      match f.detail with
      | some detail => [("detail", detail.toJson)]
      | none => [])

namespace Verdict

/-- A verdict in a structured report. -/
def toJson (v : Verdict) : Json :=
  .object
    [("gate", .string v.gate.key), ("passed", .bool v.passed),
      ("targets_examined", .number (.word v.count)),
      ("findings", .array (v.findings.map Finding.toJson))]

/-- The structured report. -/
def jsonReport (v : Verdict) : String :=
  v.toJson.pretty ++ "\n"

/-- The report in one of the two forms. -/
def report (v : Verdict) (json : Bool) : String :=
  if json then v.jsonReport else v.textReport

end Verdict

/-! ## Reading structured reports -/

namespace StructuredReport

open Json (Reader RecordShape)

/-- The fields of regression figures. -/
structure DetailFields where
  baseline : Option Float := none
  current : Option Float := none
  regression : Option Float := none
  allowed : Option Float := none

/-- Reads regression figures. -/
def detailShape : RecordShape DetailFields RegressionDetail where
  name := "RegressionDetail"
  fields := ["baseline", "current", "regression", "allowed"]
  start := {}
  mayLack := fun _ => false
  has := fun name d =>
    match name with
    | "baseline" => d.baseline.isSome
    | "current" => d.current.isSome
    | "regression" => d.regression.isSome
    | _ => d.allowed.isSome
  read := fun name d c => do
    let (x, c) ← Json.readFloat c
    return (match name with
      | "baseline" => { d with baseline := some x }
      | "current" => { d with current := some x }
      | "regression" => { d with regression := some x }
      | _ => { d with allowed := some x }, c)
  make := fun d => do
    return ⟨← d.baseline, ← d.current, ← d.regression, ← d.allowed⟩

/-- The fields of a finding. -/
structure FindingFields where
  location : Option String := none
  ruleId : Option String := none
  message : Option String := none
  detail : Option (Option RegressionDetail) := none

/-- Reads a finding inside at most `depth - 1` open brackets. -/
def findingShape (depth : Nat) : RecordShape FindingFields Finding where
  name := "Finding"
  fields := ["location", "rule_id", "message", "detail"]
  start := {}
  mayLack := fun name => name == "detail"
  has := fun name f =>
    match name with
    | "location" => f.location.isSome
    | "rule_id" => f.ruleId.isSome
    | "message" => f.message.isSome
    | _ => f.detail.isSome
  read := fun name f c => do
    match name with
    | "detail" =>
      let (detail, c) ← Json.readOptional (detailShape.reader (depth - 1)) c
      return ({ f with detail := some detail }, c)
    | _ =>
      let (s, c) ← Json.readText "a string" c
      return (match name with
        | "location" => { f with location := some s }
        | "rule_id" => { f with ruleId := some s }
        | _ => { f with message := some s }, c)
  make := fun f => do
    return ⟨← f.location, ← f.ruleId, ← f.message, f.detail.getD none⟩

/-- The fields of a verdict. -/
structure VerdictFields where
  gate : Option Gate := none
  passed : Option Bool := none
  targetsExamined : Option Nat := none
  findings : Option (List Finding) := none

/-- The gates by their names. -/
def gates : List (String × Gate) :=
  [Gate.docsDrift, .benchRegression].map (fun gate => (gate.key, gate))

/-- Reads a verdict inside at most `depth - 1` open brackets. -/
def verdictShape (depth : Nat) : RecordShape VerdictFields Verdict where
  name := "Verdict"
  fields := ["gate", "passed", "targets_examined", "findings"]
  start := {}
  mayLack := fun _ => false
  has := fun name v =>
    match name with
    | "gate" => v.gate.isSome
    | "passed" => v.passed.isSome
    | "targets_examined" => v.targetsExamined.isSome
    | _ => v.findings.isSome
  read := fun name v c => do
    match name with
    | "gate" =>
      let (gate, c) ← Json.readChoice (depth - 1) gates c
      return ({ v with gate := some gate }, c)
    | "passed" =>
      let (passed, c) ← Json.readBool c
      return ({ v with passed := some passed }, c)
    | "targets_examined" =>
      let (count, c) ← Json.readCount c
      return ({ v with targetsExamined := some count }, c)
    | _ =>
      let (findings, c) ← Json.readList (depth - 1) (fun d => (findingShape d).reader d) c
      return ({ v with findings := some findings }, c)
  make := fun v => do
    return ⟨← v.gate, ← v.passed, ← v.targetsExamined, ← v.findings⟩

end StructuredReport

/-- Reads a verdict back from its structured report. -/
def Verdict.ofReport (s : String) : Except Json.Error Verdict :=
  Json.readAll ((StructuredReport.verdictShape Json.depthLimit).reader Json.depthLimit) s

end QualityGates
