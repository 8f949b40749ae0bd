import QualityGates.Coverage.Jacoco

/-!
# Coverage summaries

The classes of a coverage report, ranked, as a table or as JSON. A summary shows at most as many
classes as asked for, but counts them all.
-/

namespace QualityGates.Coverage

/-- Reads a report and ranks its classes. -/
def summarize (path : Path) : Lookup (Except GateError (List ClassCoverage)) := do
  return (← Lookup.requiredText path).bind (fun text =>
    (classesOf path text).map ClassCoverage.ranked)

/-- The row of a class in the table. -/
def row (rank : Nat) (c : ClassCoverage) : String :=
  Number.padLeft 2 (Number.natText rank) ++ ".   " ++
    Number.padLeft 6 (Number.fixedText 2 c.percent) ++ "%   " ++
    Number.padLeft 6 (Number.natText c.missed.toNat) ++ " " ++
    Number.padLeft 7 (Number.natText c.covered.toNat) ++ "  " ++ c.name

/-- The rows of ranked classes, from a rank on. -/
def rows (rank : Nat) : List ClassCoverage → List String
  | [] => []
  | c :: rest => row rank c :: rows (rank + 1) rest

/-- The lines of the table with at most `limit` classes. -/
def tableLines (limit : Nat) (classes : List ClassCoverage) : List String :=
  ["Found " ++ Number.natText classes.length ++ " classes",
    "Rank  Coverage%  Missed Covered  Class"] ++ rows 1 (classes.take limit)

/-- The table with at most `limit` classes. -/
def table (limit : Nat) (classes : List ClassCoverage) : String :=
  String.join ((tableLines limit classes).map (fun line => line ++ "\n"))

/-- A class in JSON. -/
def classJson (c : ClassCoverage) : Json :=
  .object
    [("name", .string c.name), ("missed", .number (.word c.missed)),
      ("covered", .number (.word c.covered)), ("percent", .number (.float c.percent))]

/-- At most `limit` classes in JSON. -/
def json (limit : Nat) (classes : List ClassCoverage) : Json :=
  .array ((classes.take limit).map classJson)

/-- The summary in one of the two forms. -/
def report (limit : Nat) (asJson : Bool) (classes : List ClassCoverage) : String :=
  if asJson then (json limit classes).pretty ++ "\n" else table limit classes

end QualityGates.Coverage
