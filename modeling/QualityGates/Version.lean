import QualityGates.Text.Separated
import QualityGates.Number.Digits

/-!
# Release versions

A version is three words, written `major.minor.patch`. The strict reading takes that form and no
other; the lenient one first drops white space around the text and everything from the first `-`
or `+`, which is how build manifests mark a pre-release or a build.
-/

namespace QualityGates

/-- A release version without pre-release or build marks. -/
structure Version where
  major : UInt64
  minor : UInt64
  patch : UInt64
  deriving DecidableEq, Repr, Inhabited

namespace Version

/-- The decimal components joined by dots. -/
def text (v : Version) : String :=
  Number.natText v.major.toNat ++ "." ++ Number.natText v.minor.toNat ++ "." ++
    Number.natText v.patch.toNat

/-- Reads exactly three words separated by dots. -/
def ofChars? (cs : List Char) : Option Version :=
  match Text.pieces '.' cs with
  | [major, minor, patch] => do
    return ⟨← Number.readWord major, ← Number.readWord minor, ← Number.readWord patch⟩
  | _ => none

/-- Reads a version that stands alone. -/
def strict? (s : String) : Option Version :=
  ofChars? s.toList

/-- Reads a version with white space around it and a pre-release or build mark after it. -/
def lenient? (s : String) : Option Version :=
  ofChars? ((Text.trim s.toList).takeWhile (fun c => c != '-' && c != '+'))

/-- Versions compare by major, then minor, then patch component. -/
def order (a b : Version) : Ordering :=
  (compare a.major b.major).then ((compare a.minor b.minor).then (compare a.patch b.patch))

end Version
end QualityGates
