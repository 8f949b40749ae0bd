import QualityGates.CommandLine.Execution
import QualityGates.Proofs.Json.Printed

/-!
# What a listing shows

A listing of rules shows the version, the globs and the rules, as text on lines of its own or in
JSON that is read back.
-/

namespace QualityGates

open Json (ReadsAs)

/-- A rule in a listing is read as it. -/
theorem Rule.readsAs {depth : Nat} (r : Rule) : ReadsAs (depth + 2) r.toJson r.toJson := by
  have text (s : String) : ReadsAs (depth + 1) (.string s) (.string s) := Json.readsAs_string s
  exact Json.readsAs_object (Nat.succ_ne_zero depth) (.cons ((text _).named _)
    (.cons ((text _).named _) (.cons ((text _).named _) .nil)))

/-- A listing in JSON is read as it. -/
theorem CommandLine.RuleListing.ofText_report (l : RuleListing) :
    Json.ofText (l.report true) = .ok l.toJson := by
  have baseline : ReadsAs 127 (l.baseline.elim .null Json.string)
      (l.baseline.elim .null Json.string) := by
    cases l.baseline with
    | none => exact Json.readsAs_null
    | some version => exact Json.readsAs_string version
  have allowlist : ReadsAs 127 (ConfigFile.textsJson l.allowlist)
      (ConfigFile.textsJson l.allowlist) := by
    refine Json.readsAs_array (by decide) (List.forall₂_same.mpr fun json member => ?_)
    obtain ⟨pattern, _, rfl⟩ := List.mem_map.mp member
    exact Json.readsAs_string pattern
  have rules : ReadsAs 127 (.array (l.rules.map Rule.toJson))
      (.array (l.rules.map Rule.toJson)) := by
    refine Json.readsAs_array (by decide) (List.forall₂_same.mpr fun json member => ?_)
    obtain ⟨rule, _, rfl⟩ := List.mem_map.mp member
    exact rule.readsAs
  exact Json.ofText_pretty (Json.readsAs_object (by decide) (.cons (baseline.named _)
    (.cons (allowlist.named _) (.cons (rules.named _) .nil))))

namespace CommandLine.RuleListing

/-- What a listing shows as text: the version, the globs if there are any, and the identifier and
the pattern of each rule, on a line each. -/
theorem text_eq (l : RuleListing) : l.report false =
    "Baseline version: " ++ l.baseline.getD "(none)" ++ "\n" ++
      (if l.allowlist = [] then ""
        else "Allow-list: " ++ String.intercalate ", " l.allowlist ++ "\n") ++
      "Rules:\n" ++
      String.join (l.rules.map fun rule => "- " ++ rule.id ++ ": " ++ rule.source ++ "\n") := by
  have header : "Rules:\n" = "Rules:" ++ "\n" := rfl
  have globs : String.join ((if l.allowlist.isEmpty then []
      else ["Allow-list: " ++ String.intercalate ", " l.allowlist]).map fun line => line ++ "\n") =
      if l.allowlist = [] then ""
      else "Allow-list: " ++ String.intercalate ", " l.allowlist ++ "\n" := by
    cases l.allowlist with
    | nil => rfl
    | cons pattern patterns =>
      rw [if_neg (List.cons_ne_nil pattern patterns), List.isEmpty_cons, if_neg Bool.false_ne_true,
        List.map_singleton, String.join_cons, String.join_nil, String.append_empty]
  show l.text = _
  unfold text
  dsimp only
  simp only [List.map_append, String.join_append, globs, header, List.map_cons, List.map_nil,
    String.join_cons, String.join_nil, String.append_empty, List.map_map, Function.comp_def]

/-- What a listing shows in JSON: the version or nothing, the globs, and the identifier, the pattern
and the message of each rule. -/
theorem ofText_report_eq (l : RuleListing) : Json.ofText (l.report true) = .ok (.object
    [("baseline", (l.baseline.map Json.string).getD .null),
      ("allowlist", .array (l.allowlist.map .string)),
      ("rules", .array (l.rules.map fun rule => .object
        [("id", .string rule.id), ("pattern", .string rule.source),
          ("message", .string rule.message)]))]) := by
  rw [l.ofText_report]
  unfold toJson
  cases l.baseline <;> rfl

end CommandLine.RuleListing
end QualityGates
