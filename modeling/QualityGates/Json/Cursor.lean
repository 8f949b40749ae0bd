/-!
# Places in a JSON text

Lines are counted from one, and columns count the bytes since the last line feed. A fault is
reported either where reading stopped or one byte further on, at the byte that was looked at.
-/

namespace QualityGates.Json

/-- A line and the number of bytes before a place in that line. -/
structure Position where
  line : Nat
  column : Nat
  deriving DecidableEq, Repr, Inhabited

/-- Why a text is no JSON value, or not the expected one. -/
inductive Fault where
  | endInList
  | endInObject
  | endInString
  | endInValue
  | expectedColon
  | expectedListEnd
  | expectedObjectEnd
  | expectedIdent
  | expectedValue
  | invalidEscape
  | invalidNumber
  | numberOutOfRange
  | controlCharacter
  | keyNotString
  | loneSurrogate
  | trailingComma
  | trailingCharacters
  | unfinishedSurrogate
  | tooDeep
  /-- A value of another shape than the expected one. -/
  | mismatch (text : String)
  deriving DecidableEq, Repr, Inhabited

/-- The wording of a fault. -/
def Fault.message : Fault → String
  | endInList => "EOF while parsing a list"
  | endInObject => "EOF while parsing an object"
  | endInString => "EOF while parsing a string"
  | endInValue => "EOF while parsing a value"
  | expectedColon => "expected `:`"
  | expectedListEnd => "expected `,` or `]`"
  | expectedObjectEnd => "expected `,` or `\x7d`"
  | expectedIdent => "expected ident"
  | expectedValue => "expected value"
  | invalidEscape => "invalid escape"
  | invalidNumber => "invalid number"
  | numberOutOfRange => "number out of range"
  | controlCharacter => "control character (\\u0000-\\u001F) found while parsing a string"
  | keyNotString => "key must be a string"
  | loneSurrogate => "lone leading surrogate in hex escape"
  | trailingComma => "trailing comma"
  | trailingCharacters => "trailing characters"
  | unfinishedSurrogate => "unexpected end of hex escape"
  | tooDeep => "recursion limit exceeded"
  | mismatch text => text

/-- A fault and its place. -/
structure Error where
  fault : Fault
  position : Position
  deriving DecidableEq, Repr, Inhabited

/-- The wording of a fault with its place. -/
def Error.message (e : Error) : String :=
  e.fault.message ++ " at line " ++ toString e.position.line ++ " column " ++
    toString e.position.column

/-- The text that is still to be read, and where it starts. -/
structure Cursor where
  rest : List Char
  position : Position
  deriving Inhabited

/-- The place after `n` more bytes of a text. -/
def Position.afterBytes (p : Position) : List Char → (n : Nat) → Position
  | _, 0 => p
  | [], _ => p
  | c :: rest, n + 1 =>
    if c = '\n' then afterBytes ⟨p.line + 1, 0⟩ rest n
    else if n + 1 < c.utf8Size then ⟨p.line, p.column + (n + 1)⟩
    else afterBytes ⟨p.line, p.column + c.utf8Size⟩ rest (n + 1 - c.utf8Size)

/-- The place after a whole character. -/
def Position.after (p : Position) (c : Char) : Position :=
  if c = '\n' then ⟨p.line + 1, 0⟩ else ⟨p.line, p.column + c.utf8Size⟩

namespace Cursor

/-- The start of a text. -/
def start (cs : List Char) : Cursor :=
  ⟨cs, ⟨1, 0⟩⟩

/-- The place one byte further on. -/
def peeked (c : Cursor) : Position :=
  c.position.afterBytes c.rest 1

/-- Moves past one character. -/
def next (c : Cursor) : Cursor :=
  match c.rest with
  | [] => c
  | d :: rest => ⟨rest, c.position.after d⟩

/-- A fault where reading stopped. -/
def fail {α : Type} (c : Cursor) (fault : Fault) : Except Error α :=
  .error ⟨fault, c.position⟩

/-- A fault at the byte that was looked at. -/
def failPeeked {α : Type} (c : Cursor) (fault : Fault) : Except Error α :=
  .error ⟨fault, c.peeked⟩

/-- Blanks between JSON tokens. -/
def isSpace (c : Char) : Bool :=
  c == ' ' || c == '\n' || c == '\t' || c == '\r'

/-- Moves past blanks that start at a place. -/
def skipFrom (p : Position) : List Char → Cursor
  | [] => ⟨[], p⟩
  | c :: rest => if isSpace c then skipFrom (p.after c) rest else ⟨c :: rest, p⟩

/-- Moves past blanks. -/
def skipSpaces (c : Cursor) : Cursor :=
  skipFrom c.position c.rest

end Cursor
end QualityGates.Json
