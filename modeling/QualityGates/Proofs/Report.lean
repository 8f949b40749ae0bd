import QualityGates.Proofs.Json.Printed
import QualityGates.Report

/-!
# What structured reports say

The structured report of a verdict is read back as an object, and the text report can be computed
from what is read: paths, rules and messages come through every escape. The figures of a regression
come back as numbers, perhaps as other ones, or as `null` where they are not finite, and are not
part of a line.
-/

namespace QualityGates

open Json (ReadsAs MemberReadsAs)

/-! ## Text from structured reports -/

/-- The fields of a structured report. -/
structure ReportFields where
  gate : Gate
  passed : Bool
  targetsExamined : UInt64
  findings : List Json

/-- Whether a JSON value is an object with these fields. -/
structure ReportFields.Of (r : ReportFields) (json : Json) : Prop where
  gate : json.member? "gate" = some (.string r.gate.key)
  passed : json.member? "passed" = some (.bool r.passed)
  targetsExamined : json.member? "targets_examined" = some (.number (.word r.targetsExamined))
  findings : json.member? "findings" = some (.array r.findings)

/-- The line for a finding, computed from its structured form. -/
def findingLine? (finding : Json) : Option String := do
  let location ← (finding.member? "location").bind Json.string?
  let ruleId ← (finding.member? "rule_id").bind Json.string?
  let message ← (finding.member? "message").bind Json.string?
  return location ++ ": [" ++ ruleId ++ "] " ++ message

/-- The text report, computed from the fields of a structured one. -/
def ReportFields.text? (r : ReportFields) : Option String :=
  if r.passed then
    some (r.gate.title ++ " passed (" ++ Number.natText r.targetsExamined.toNat ++ " " ++
      r.gate.noun ++ " checked).\n")
  else
    (r.findings.mapM findingLine?).map fun lines =>
      r.gate.title ++ " failed:\n" ++ String.join (lines.map fun line => line ++ "\n")

/-- Whether a figure stands in an object: as a number, or as `null` if it is not finite. -/
def FigureIn (object : Json) (name : String) (x : Float) : Prop :=
  ∃ value, object.member? name = some value ∧
    if x.isFinite then ∃ y, value = .number (.float y) else value = .null

/-- Whether an object has the figures of a regression. -/
structure RegressionDetail.In (d : RegressionDetail) (object : Json) : Prop where
  baseline : FigureIn object "baseline" d.baseline
  current : FigureIn object "current" d.current
  regression : FigureIn object "regression" d.regression
  allowed : FigureIn object "allowed" d.allowed

/-- Whether an object has the line of a finding, and the figures if there are some. -/
structure Finding.In (f : Finding) (object : Json) : Prop where
  line : findingLine? object = some f.line
  detail : ∀ d, f.detail = some d → ∃ figures, object.member? "detail" = some figures ∧ d.In figures

/-! ## Reading structured reports as JSON -/

/-- The figures of a regression are read as an object that has them. -/
theorem RegressionDetail.readsAs (d : RegressionDetail) (depth : Nat) :
    ∃ value, ReadsAs (depth + 2) d.toJson value ∧ d.In value := by
  obtain ⟨baseline, baselineReads, isBaseline⟩ := Json.readsAs_float depth d.baseline
  obtain ⟨current, currentReads, isCurrent⟩ := Json.readsAs_float depth d.current
  obtain ⟨regression, regressionReads, isRegression⟩ := Json.readsAs_float depth d.regression
  obtain ⟨allowed, allowedReads, isAllowed⟩ := Json.readsAs_float depth d.allowed
  exact ⟨_, Json.readsAs_object (Nat.succ_ne_zero depth)
    (.cons (baselineReads.named _) (.cons (currentReads.named _)
      (.cons (regressionReads.named _) (.cons (allowedReads.named _) .nil)))),
    ⟨_, rfl, isBaseline⟩, ⟨_, rfl, isCurrent⟩, ⟨_, rfl, isRegression⟩, ⟨_, rfl, isAllowed⟩⟩

/-- A finding is read as an object that has it. -/
theorem Finding.readsAs (f : Finding) (depth : Nat) :
    ∃ value, ReadsAs (depth + 3) f.toJson value ∧ f.In value := by
  have text (s : String) : ReadsAs (depth + 2) (.string s) (.string s) := Json.readsAs_string s
  have inner : depth + 2 ≠ 0 := Nat.succ_ne_zero _
  obtain ⟨location, ruleId, message, detail⟩ := f
  cases detail with
  | none =>
    exact ⟨_, Json.readsAs_object inner (.cons ((text _).named _) (.cons ((text _).named _)
      (.cons ((text _).named _) .nil))), rfl, nofun⟩
  | some d =>
    obtain ⟨value, detailReads, figures⟩ := d.readsAs depth
    refine ⟨_, Json.readsAs_object inner (.cons ((text _).named _) (.cons ((text _).named _)
      (.cons ((text _).named _) (.cons (detailReads.named _) .nil)))), rfl, ?_⟩
    rintro _ ⟨⟩
    exact ⟨value, rfl, figures⟩

/-- Findings are read as objects that have them. -/
theorem readsAs_findings (depth : Nat) (findings : List Finding) :
    ∃ values, List.Forall₂ (ReadsAs (depth + 3)) (findings.map Finding.toJson) values ∧
      List.Forall₂ Finding.In findings values := by
  induction findings with
  | nil => exact ⟨[], .nil, .nil⟩
  | cons f findings ih =>
    obtain ⟨value, reads, found⟩ := f.readsAs depth
    obtain ⟨values, othersRead, othersFound⟩ := ih
    exact ⟨value :: values, .cons reads othersRead, .cons found othersFound⟩

/-- Objects that have findings have their lines. -/
theorem mapM_findingLine? {findings : List Finding} {values : List Json}
    (found : List.Forall₂ Finding.In findings values) :
    values.mapM findingLine? = some (findings.map Finding.line) := by
  induction found with
  | nil => rfl
  | cons found _ ih =>
    rw [List.mapM_cons, found.line, ih]
    rfl

namespace Verdict

/-- The text of a report that passed. -/
theorem textReport_passed {v : Verdict} (passed : v.passed = true) : v.textReport =
    v.gate.title ++ " passed (" ++ Number.natText v.count.toNat ++ " " ++ v.gate.noun ++
      " checked).\n" := by
  have ending : " checked).\n" = " checked)." ++ "\n" := rfl
  unfold textReport lines
  rw [if_pos passed, List.map_singleton, String.join_cons, String.join_nil, String.append_empty,
    ending, String.append_assoc]

/-- The text of a report that failed. -/
theorem textReport_failed {v : Verdict} (failed : v.passed = false) : v.textReport =
    v.gate.title ++ " failed:\n" ++
      String.join ((v.findings.map Finding.line).map fun line => line ++ "\n") := by
  have header : " failed:\n" = " failed:" ++ "\n" := rfl
  unfold textReport lines
  rw [if_neg (by rw [failed]; exact Bool.false_ne_true), List.map_cons, String.join_cons, header]
  simp only [String.append_assoc]

/-- The structured report is read as an object with the fields and the findings of the verdict, from
which the text report is computed. -/
theorem jsonReport_read (v : Verdict) : ∃ json values,
    Json.ofText v.jsonReport = .ok json ∧ List.Forall₂ Finding.In v.findings values ∧
      (ReportFields.mk v.gate v.passed v.count values).Of json ∧
        (ReportFields.mk v.gate v.passed v.count values).text? = some v.textReport := by
  obtain ⟨values, read, found⟩ := readsAs_findings 123 v.findings
  have reads : ReadsAs (127 + 1) v.toJson _ := Json.readsAs_object (by decide)
    (.cons ((Json.readsAs_string _).named _) (.cons ((Json.readsAs_bool _).named _)
      (.cons ((Json.readsAs_word _).named _)
        (.cons ((Json.readsAs_array (by decide) read).named _) .nil))))
  refine ⟨_, values, Json.ofText_pretty reads, found, ⟨rfl, rfl, rfl, rfl⟩, ?_⟩
  unfold ReportFields.text?
  cases passed : v.passed with
  | true => rw [if_pos rfl, textReport_passed passed]
  | false =>
    rw [if_neg Bool.false_ne_true, mapM_findingLine? found, textReport_failed passed]
    rfl

end Verdict
end QualityGates
