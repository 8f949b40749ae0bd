import QualityGates.GateError
import QualityGates.Json.Reader
import QualityGates.Number.ReadFloat
import QualityGates.Text.Blank

/-!
# Benchmark scores

A score is a JSON number, or a text that holds a float; benchmark harnesses write values that are
not finite as texts. A baseline is an object with a score for each benchmark. Current results are an
array of entries, each with the name of a benchmark and a score. Entries without a finite score are
skipped, and the last score of a benchmark counts.
-/

namespace QualityGates

/-- The score that a JSON value stands for. -/
def score? : Json → Option Float
  | .number n => some n.toFloat
  | .string s => Number.readFloat (Text.trim s.toList)
  | _ => none

/-- Recorded scores by benchmark, in the order in which findings are reported. -/
structure Baseline where
  entries : List (String × Float)
  deriving Inhabited

namespace Baseline

/-- Reads the members of an object. -/
def ofMembers : List (String × Json) → Except ScoreFault (List (String × Float))
  | [] => .ok []
  | (name, value) :: rest =>
    match score? value with
    | none => .error (.notNumber name value)
    | some x =>
      match ofMembers rest with
      | .error fault => .error fault
      | .ok entries => .ok ((name, x) :: entries)

/-- Reads a baseline from JSON. -/
def ofJson : Json → Except ScoreFault Baseline
  | .object members => (ofMembers members).map Baseline.mk
  | _ => .error .wrongCollection

/-- Reads a baseline; the path is only named in errors. -/
def ofText (path : Path) (text : String) : Except GateError Baseline :=
  match Json.ofText text with
  | .error e => .error (.notJson path e)
  | .ok json => (ofJson json).mapError (GateError.malformedBaseline path)

/-- Loads a baseline. -/
def load (path : Path) : Lookup (Except GateError Baseline) := do
  return (← Lookup.requiredText path).bind (ofText path)

end Baseline

/-- The finite scores of benchmarks that ran. -/
structure Results where
  scores : List (String × Float) := []
  /-- How many entries had no name or no finite score. -/
  skipped : Nat := 0
  deriving Inhabited

namespace Results

/-- The name and the score of an entry; none if one of them is lacking. -/
def nameAndScore (entry : Json) : Option (String × Json) :=
  match (entry.member? "benchmark").bind Json.string?,
      (entry.member? "primaryMetric").bind (Json.member? "score") with
  | some name, some score => if score.isNull then none else some (name, score)
  | _, _ => none

/-- The finite score of an entry; none if the entry is skipped. -/
def ofEntry (entry : Json) : Except ScoreFault (Option (String × Float)) :=
  match nameAndScore entry with
  | none => .ok none
  | some (name, score) =>
    match score? score with
    | none => .error (.notNumber name score)
    | some x => .ok (if x.isFinite then some (name, x) else none)

/-- Takes an entry. -/
def take (r : Results) : Option (String × Float) → Results
  | some (name, x) => { r with scores := Json.setMember name x r.scores }
  | none => { r with skipped := r.skipped + 1 }

/-- Takes entries in order; the first one whose score is no number is an error. -/
def takeAll (r : Results) : List Json → Except ScoreFault Results
  | [] => .ok r
  | entry :: rest =>
    match ofEntry entry with
    | .error fault => .error fault
    | .ok entry => (r.take entry).takeAll rest

/-- Reads results from JSON. -/
def ofJson : Json → Except ScoreFault Results
  | .array entries => takeAll {} entries
  | _ => .error .wrongCollection

/-- Reads results; the path is only named in errors. -/
def ofText (path : Path) (text : String) : Except GateError Results :=
  match Json.ofText text with
  | .error e => .error (.notJson path e)
  | .ok json => (ofJson json).mapError (GateError.malformedResults path)

/-- Loads results. -/
def load (path : Path) : Lookup (Except GateError Results) := do
  return (← Lookup.requiredText path).bind (ofText path)

/-- The results with some scores; those that are not finite are left out. -/
def ofScores (scores : List (String × Float)) : Results where
  scores := Json.mergeMembers (scores.filter (fun item => item.2.isFinite))

/-- The score of a benchmark. -/
def get? (r : Results) (benchmark : String) : Option Float :=
  r.scores.lookup benchmark

end Results
end QualityGates
