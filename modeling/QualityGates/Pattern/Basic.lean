import QualityGates.Pattern.CharSet

/-!
# Line patterns

A pattern describes stretches of a line. It is matched at places of the line, which remember the
character before them, so that edges of words and lines can be told from either side.

Matching works on all places of a line at once. `Pattern.reach` takes marks for the places where a
stretch may start and gives marks for the places where a matching stretch may end, so a line is
searched in time proportional to its length for patterns that repeat single characters only.
-/

namespace QualityGates

/-- A condition on a place between two characters. -/
inductive Edge where
  | textStart
  | textEnd
  | lineStart
  | lineEnd
  | wordEdge
  | notWordEdge
  | wordStart
  | wordEnd
  | noWordBefore
  | noWordAfter
  deriving DecidableEq, Repr, Inhabited

/-- A place in a line: the character before it, and the characters after it. -/
structure Place where
  before : Option Char
  rest : List Char
  deriving DecidableEq, Repr, Inhabited

namespace Place

/-- Whether a character belongs to a word; the ends of the line do not. -/
def inWord (c : Option Char) : Bool :=
  match c with
  | some c => Text.isWordChar c
  | none => false

/-- The places of a line that starts after `before`, from left to right. -/
def allFrom (before : Option Char) : List Char → List Place
  | [] => [⟨before, []⟩]
  | c :: rest => ⟨before, c :: rest⟩ :: allFrom (some c) rest

/-- The places of a line, from left to right. -/
def all (line : List Char) : List Place :=
  allFrom none line

/-- A list of places without repetitions. -/
def distinct : List Place → List Place
  | [] => []
  | place :: rest => place :: (distinct rest).filter (fun other => other ≠ place)

@[simp] theorem mem_distinct {place : Place} {places : List Place} :
    place ∈ distinct places ↔ place ∈ places := by
  induction places with
  | nil => simp [distinct]
  | cons first rest ih =>
    by_cases h : place = first
    · simp [distinct, h]
    · simp [distinct, h, ih]

end Place

/-- Whether a condition holds at a place. -/
def Edge.holds (e : Edge) (place : Place) : Bool :=
  let before := Place.inWord place.before
  let after := Place.inWord place.rest.head?
  match e with
  | textStart => place.before.isNone
  | textEnd => place.rest.isEmpty
  | lineStart => place.before.isNone || place.before == some '\n'
  | lineEnd => place.rest.isEmpty || place.rest.head? == some '\n'
  | wordEdge => before != after
  | notWordEdge => before == after
  | wordStart => !before && after
  | wordEnd => before && !after
  | noWordBefore => !before
  | noWordAfter => !after

/-- For each place of a line, from left to right, whether it is marked. -/
abbrev Marks := List Bool

namespace Marks

/-- Marks at every place of a line. -/
def all (line : List Char) : Marks :=
  List.replicate (line.length + 1) true

/-- Whether any place is marked. -/
def some (marks : Marks) : Bool :=
  marks.any id

/-- The places that are marked in one of two ways. -/
def either (a b : Marks) : Marks :=
  List.zipWith or a b

/-- The places that are marked in the first way only. -/
def without (a b : Marks) : Marks :=
  List.zipWith (fun x y => x && !y) a b

/-- Moves the marks in front of characters of a set over them; the first place is left out. -/
def advance (s : CharSet) : (line : List Char) → (marks : Marks) → Marks
  | c :: rest, mark :: more => (mark && s.contains c) :: advance s rest more
  | _, _ => []

/-- The marks at places where a condition holds. -/
def keep (e : Edge) (before : Option Char) : (line : List Char) → (marks : Marks) → Marks
  | [], mark :: _ => [mark && e.holds ⟨before, []⟩]
  | c :: rest, mark :: more =>
    (mark && e.holds ⟨before, c :: rest⟩) :: keep e (Option.some c) rest more
  | _, [] => []

/-- Marks that move over any number of characters of a set; `carried` tells whether one has moved to
the first place. -/
def spread (s : CharSet) (carried : Bool) : (line : List Char) → (marks : Marks) → Marks
  | [], mark :: _ => [mark || carried]
  | c :: rest, mark :: more =>
    let here := mark || carried
    here :: spread s (here && s.contains c) rest more
  | _, [] => []

/-- The places that are reached by any number of steps; `fresh` holds the places that were reached
last. -/
def closure (step : Marks → Marks) : (fuel : Nat) → (known fresh : Marks) → Marks
  | 0, known, _ => known
  | fuel + 1, known, fresh =>
    let next := (step fresh).without known
    if next.some then closure step fuel (known.either next) next else known

end Marks

/-- A pattern over the characters of a line. -/
inductive Pattern where
  | empty
  | char (s : CharSet)
  | edge (e : Edge)
  | seq (p q : Pattern)
  | alt (p q : Pattern)
  | star (p : Pattern)
  deriving DecidableEq, Repr, Inhabited

namespace Pattern

/-- The places where a matching stretch may end that starts at a marked place. -/
def reach : Pattern → (line : List Char) → Marks → Marks
  | empty, _, marks => marks
  | char s, line, marks => false :: marks.advance s line
  | edge e, line, marks => marks.keep e none line
  | seq p q, line, marks =>
    let middle := p.reach line marks
    if middle.some then q.reach line middle else middle
  | alt p q, line, marks => (p.reach line marks).either (q.reach line marks)
  | star (char s), line, marks => marks.spread s false line
  | star p, line, marks => Marks.closure (p.reach line) (line.length + 1) marks marks

/-- Whether some stretch of the line matches. -/
def matchesChars (p : Pattern) (line : List Char) : Bool :=
  (p.reach line (Marks.all line)).some

/-- Whether some stretch of the line matches. -/
def isIn (p : Pattern) (line : String) : Bool :=
  p.matchesChars line.toList

/-- One or more repetitions. -/
def plus (p : Pattern) : Pattern :=
  seq p (star p)

/-- The pattern or nothing. -/
def optional (p : Pattern) : Pattern :=
  alt p empty

/-- Exactly `n` repetitions. -/
def times (p : Pattern) : Nat → Pattern
  | 0 => empty
  | 1 => p
  | n + 1 => seq p (times p n)

/-- At most `n` repetitions. -/
def upTo (p : Pattern) : Nat → Pattern
  | 0 => empty
  | n + 1 => optional (seq p (upTo p n))

/-- The characters of a text, one after the other. -/
def text : List Char → Pattern
  | [] => empty
  | [c] => char (.one c)
  | c :: rest => seq (char (.one c)) (text rest)

/-- A list of patterns one after the other. -/
def sequence : List Pattern → Pattern
  | [] => empty
  | [p] => p
  | p :: rest => seq p (sequence rest)

/-- Any pattern of a list; the empty text for the empty list. -/
def anyOf : List Pattern → Pattern
  | [] => empty
  | [p] => p
  | p :: rest => alt p (anyOf rest)

end Pattern
end QualityGates
