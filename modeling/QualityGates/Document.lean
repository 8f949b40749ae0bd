import QualityGates.Text.Line

/-!
# Documents

A document is a list of numbered lines at a path.
-/

namespace QualityGates

/-- A line of a document; lines are counted from one. -/
structure DocLine where
  number : Nat
  text : String
  deriving DecidableEq, Repr, Inhabited

/-- A document. -/
structure Document where
  path : String
  lines : List DocLine
  deriving DecidableEq, Repr, Inhabited

namespace Document

/-- Numbers lines from `first` on. -/
def numbered (first : Nat) : List (List Char) → List DocLine
  | [] => []
  | line :: rest => ⟨first, String.ofList line⟩ :: numbered (first + 1) rest

/-- The document with a text. -/
def ofText (path text : String) : Document :=
  ⟨path, numbered 1 (Text.lines text.toList)⟩

end Document
end QualityGates
