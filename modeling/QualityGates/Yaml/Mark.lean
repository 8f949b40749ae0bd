/-!
# Places in a YAML text

A place is given by its line and column, both counted from zero in characters, and by the number
of characters before it. A carriage return with a line feed after it is one line break.
-/

namespace QualityGates.Yaml

/-- A place in a text. -/
structure Mark where
  index : Nat
  line : Nat
  column : Nat
  deriving DecidableEq, Repr, Inhabited

/-- A character that ends a line. -/
def isBreak (c : Char) : Bool :=
  c == '\n' || c == '\r' || c == '\x85' || c == '\u2028' || c == '\u2029'

/-- A blank or a tab. -/
def isBlank (c : Char) : Bool :=
  c == ' ' || c == '\t'

/-- Whether a line ends here; it also ends where the text does. -/
def isBreakOrEnd (c : Option Char) : Bool :=
  match c with
  | some c => isBreak c
  | none => true

/-- Whether a word ends here. -/
def isBlankOrEnd (c : Option Char) : Bool :=
  match c with
  | some c => isBlank c || isBreak c
  | none => true

/-- A character of the names of anchors, tag handles and directives. -/
def isNameChar (c : Char) : Bool :=
  c.isAlphanum || c == '_' || c == '-'

/-- A character that may stand in a YAML text. -/
def isAllowed (c : Char) : Bool :=
  let n := c.toNat
  n == 0x09 || n == 0x0A || n == 0x0D || (0x20 ≤ n && n ≤ 0x7E) || n == 0x85 ||
    (0xA0 ≤ n && n ≤ 0xFFFD) || 0x10000 ≤ n

/-- The text that is still to be read, and where it starts. -/
structure Cursor where
  rest : List Char
  mark : Mark
  deriving Inhabited

namespace Cursor

/-- The start of a text. -/
def start (cs : List Char) : Cursor :=
  ⟨cs, ⟨0, 0, 0⟩⟩

/-- The character `n` places ahead. -/
def peek? (c : Cursor) (n : Nat) : Option Char :=
  c.rest[n]?

/-- Whether a character stands `n` places ahead. -/
def has (c : Cursor) (n : Nat) (d : Char) : Bool :=
  c.peek? n == some d

/-- Moves past a character inside a line. -/
def skip (c : Cursor) : Cursor :=
  match c.rest with
  | [] => c
  | _ :: rest => ⟨rest, { c.mark with index := c.mark.index + 1, column := c.mark.column + 1 }⟩

/-- Moves past several characters inside a line. -/
def skipMany (c : Cursor) : (n : Nat) → Cursor
  | 0 => c
  | n + 1 => c.skip.skipMany n

/-- Moves past characters inside a line from a place. -/
def skipFrom (p : Char → Bool) (m : Mark) : List Char → Cursor
  | [] => ⟨[], m⟩
  | d :: rest =>
    if p d then skipFrom p { m with index := m.index + 1, column := m.column + 1 } rest
    else ⟨d :: rest, m⟩

/-- Moves past characters inside a line. -/
def skipWhile (p : Char → Bool) (c : Cursor) : Cursor :=
  skipFrom p c.mark c.rest

/-- Moves past the rest of a line, up to its break. -/
def skipToBreak (c : Cursor) : Cursor :=
  c.skipWhile (fun d => !isBreak d)

/-- Moves past a line break. -/
def skipBreak (c : Cursor) : Cursor :=
  match c.rest with
  | '\r' :: '\n' :: rest => ⟨rest, ⟨c.mark.index + 2, c.mark.line + 1, 0⟩⟩
  | d :: rest => if isBreak d then ⟨rest, ⟨c.mark.index + 1, c.mark.line + 1, 0⟩⟩ else c
  | [] => c

/-- What a line break stands for in a scalar. -/
def breakText (c : Cursor) : List Char :=
  match c.rest with
  | d :: _ => if d == '\u2028' || d == '\u2029' then [d] else if isBreak d then ['\n'] else []
  | [] => []

/-- Whether a document indicator made of `d` stands at the start of this line. -/
def atIndicator (c : Cursor) (d : Char) : Bool :=
  c.mark.column == 0 && c.has 0 d && c.has 1 d && c.has 2 d && isBlankOrEnd (c.peek? 3)

/-- Moves past blanks and a comment to the end of a line; there must be nothing else. -/
def finishLine (c : Cursor) : Option Cursor :=
  let c := c.skipWhile isBlank
  let c := if c.has 0 '#' then c.skipToBreak else c
  if isBreakOrEnd (c.peek? 0) then some c.skipBreak else none

end Cursor
end QualityGates.Yaml
