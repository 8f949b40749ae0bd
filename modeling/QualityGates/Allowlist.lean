import QualityGates.GateError
import QualityGates.Glob.Set

/-!
# Allow-lists

Globs for the documents that a gate passes over. They are matched against paths relative to the root
of a project, and their stars take separators too. Each glob is read on its own, and then they are
made a set, which may fail once more.
-/

namespace QualityGates

/-- The globs of an allow-list with their written forms. -/
structure Allowlist where
  entries : List (String × Glob)

namespace Allowlist

/-- The allow-list that passes over nothing. -/
def empty : Allowlist :=
  ⟨[]⟩

/-- Reads a glob of an allow-list. -/
def readEntry (pattern : String) : Except GateError (String × Glob) :=
  match Glob.ofText pattern with
  | .ok glob => .ok (pattern, glob)
  | .error fault => .error (.invalidGlob pattern fault)

/-- Reads globs in order; the first one that cannot be read is an error. -/
def readEntries : List String → Except GateError (List (String × Glob))
  | [] => .ok []
  | pattern :: rest =>
    match readEntry pattern with
    | .error e => .error e
    | .ok entry =>
      match readEntries rest with
      | .error e => .error e
      | .ok entries => .ok (entry :: entries)

/-- Makes globs that were read a set; where that fails, all of them are named. -/
def ofEntries (entries : List (String × Glob)) : Except GateError Allowlist :=
  match Glob.setFault? (entries.map Prod.snd) with
  | some fault => .error (.invalidGlob (String.intercalate "," (entries.map Prod.fst)) fault)
  | none => .ok ⟨entries⟩

/-- The allow-list with some globs. -/
def ofPatterns (patterns : List String) : Except GateError Allowlist :=
  (readEntries patterns).bind ofEntries

/-- The written forms of the globs. -/
def patterns (a : Allowlist) : List String :=
  a.entries.map Prod.fst

/-- Whether a path is passed over. -/
def allows (a : Allowlist) (path : String) : Bool :=
  a.entries.any (fun entry => entry.2.isMatch path)

end Allowlist
end QualityGates
