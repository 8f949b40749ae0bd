import QualityGates.Document
import QualityGates.Rule
import QualityGates.Verdict

/-!
# Evaluating documentation rules

Every rule is tried on every line of every document. Findings come by document, then by line, then
by rule, and a rule reports a line once however often its pattern occurs in it.
-/

namespace QualityGates.Drift

/-- The finding of a rule in a line of a document. -/
def finding (path : String) (line : DocLine) (rule : Rule) : Finding where
  location := path ++ ":" ++ Number.natText line.number
  ruleId := rule.id
  message := rule.message

/-- The findings in a line. -/
def lineFindings (rules : List Rule) (path : String) (line : DocLine) : List Finding :=
  (rules.filter (fun rule => rule.flags line.text)).map (finding path line)

/-- The findings in a document. -/
def documentFindings (rules : List Rule) (d : Document) : List Finding :=
  d.lines.flatMap (lineFindings rules d.path)

/-- The findings in documents. -/
def findings (rules : List Rule) (documents : List Document) : List Finding :=
  documents.flatMap (documentFindings rules)

end QualityGates.Drift
