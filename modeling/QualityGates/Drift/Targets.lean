import QualityGates.Allowlist
import QualityGates.Document
import QualityGates.Layout

/-!
# The documents that the drift gate checks

The readme comes first, then the markdown files below the documents directory in the order of their
paths. Documents on the allow-list are not read.
-/

namespace QualityGates.Drift

/-- Documents that have been read, and the paths of those that have been passed over. -/
structure Targets where
  documents : List Document := []
  allowlisted : List String := []
  deriving DecidableEq, Repr, Inhabited

namespace Targets

/-- The markdown files among some files, in the order of their paths. -/
def markdownFiles (files : List Path) : List Path :=
  (files.filter Path.isMarkdown).mergeSort Path.notAfter

/-- The paths of the documents of a project. -/
def paths (l : Layout) : Lookup (Except GateError (List Path)) := do
  if ← Lookup.question (.isDirectory l.docs) then
    match ← Lookup.question (.filesBelow l.docs) with
    | .ok files => return .ok (l.readme :: markdownFiles files)
    | .error (path, fault) => return .error (.unreadable path fault)
  else return .ok [l.readme]

/-- Reads documents in order, up to the first one that cannot be read. -/
def read (l : Layout) (allowlist : Allowlist) : List Path → Lookup (Except GateError Targets)
  | [] => pure (.ok {})
  | path :: rest => do
    let relative := l.relative path
    if allowlist.allows relative then
      return (← read l allowlist rest).map (fun t =>
        { t with allowlisted := relative :: t.allowlisted })
    else
      match ← Lookup.requiredText path with
      | .error e => return .error e
      | .ok text =>
        return (← read l allowlist rest).map (fun t =>
          { t with documents := Document.ofText relative text :: t.documents })

/-- Finds and reads the documents of a project. -/
def load (l : Layout) (allowlist : Allowlist) : Lookup (Except GateError Targets) := do
  match ← paths l with
  | .error e => return .error e
  | .ok paths => read l allowlist paths

end Targets
end QualityGates.Drift
