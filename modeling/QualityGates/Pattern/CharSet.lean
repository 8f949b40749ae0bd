import QualityGates.Text.Blank
import QualityGates.Text.DecimalDigit
import QualityGates.Text.WordChar
import QualityGates.Text.CaseVariant
import QualityGates.Text.Category
import QualityGates.Text.Script
import QualityGates.Text.Alphabetic

/-!
# Sets of characters

The sets that a pattern may ask one character to belong to. They are closed under union,
intersection and complement, and under letter case.
-/

namespace QualityGates

/-- A set of characters. -/
inductive CharSet where
  | every
  | one (c : Char)
  | between (low high : Char)
  | digit
  | blank
  | word
  | category (k : Text.Category)
  | assigned
  | script (s : Text.Script)
  | alphabetic
  | uppercase
  | lowercase
  | union (a b : CharSet)
  | inter (a b : CharSet)
  | complement (s : CharSet)
  | anyCase (s : CharSet)
  deriving DecidableEq, Repr, Inhabited

namespace CharSet

/-- Membership in a set. -/
def contains : CharSet → Char → Bool
  | every, _ => true
  | one d, c => c == d
  | between low high, c => low ≤ c && c ≤ high
  | digit, c => Text.isDecimalDigit c
  | blank, c => Text.isBlank c
  | word, c => Text.isWordChar c
  | category k, c => k.contains c
  | assigned, c => Text.isAssigned c
  | script s, c => s.contains c
  | alphabetic, c => Text.isAlphabetic c
  | uppercase, c => Text.isUppercase c
  | lowercase, c => Text.isLowercase c
  | union a b, c => a.contains c || b.contains c
  | inter a b, c => a.contains c && b.contains c
  | complement s, c => !s.contains c
  | anyCase s, c => (Text.caseVariants c).any s.contains

/-- The set without characters. -/
def none : CharSet :=
  complement every

/-- The characters of `a` that are not in `b`. -/
def minus (a b : CharSet) : CharSet :=
  inter a (complement b)

/-- The characters in exactly one of two sets. -/
def exclusive (a b : CharSet) : CharSet :=
  union (minus a b) (minus b a)

/-- The union of a list of sets. -/
def unions : List CharSet → CharSet
  | [] => none
  | s :: rest => rest.foldl union s

@[simp] theorem contains_none (c : Char) : none.contains c = false := rfl

@[simp] theorem contains_minus (a b : CharSet) (c : Char) :
    (minus a b).contains c = (a.contains c && !b.contains c) := rfl

end CharSet
end QualityGates
