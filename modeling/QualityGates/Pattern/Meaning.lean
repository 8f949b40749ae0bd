import QualityGates.Pattern.Basic

/-!
# What patterns mean

`Spans p a b` says that the stretch from place `a` to place `b` matches `p`. It is the reading of
a pattern that owes nothing to the way matches are searched, and `Pattern.Occurs` says that a
line has a matching stretch somewhere.
-/

namespace QualityGates

/-- The stretch between two places matches a pattern. -/
inductive Spans : Pattern → Place → Place → Prop where
  | empty (a : Place) : Spans .empty a a
  | char {s : CharSet} {before : Option Char} {c : Char} {rest : List Char}
      (h : s.contains c = true) : Spans (.char s) ⟨before, c :: rest⟩ ⟨some c, rest⟩
  | edge {e : Edge} {a : Place} (h : e.holds a = true) : Spans (.edge e) a a
  | seq {p q : Pattern} {a b c : Place} (left : Spans p a b) (right : Spans q b c) :
      Spans (.seq p q) a c
  | altLeft {p q : Pattern} {a b : Place} (h : Spans p a b) : Spans (.alt p q) a b
  | altRight {p q : Pattern} {a b : Place} (h : Spans q a b) : Spans (.alt p q) a b
  | starNil {p : Pattern} (a : Place) : Spans (.star p) a a
  | starCons {p : Pattern} {a b c : Place} (first : Spans p a b) (more : Spans (.star p) b c) :
      Spans (.star p) a c

/-- A line has a stretch that matches. -/
def Pattern.Occurs (p : Pattern) (line : List Char) : Prop :=
  ∃ a ∈ Place.all line, ∃ b, Spans p a b

end QualityGates
