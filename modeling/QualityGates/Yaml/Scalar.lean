import QualityGates.Yaml.Token

/-!
# YAML scalars

Plain and quoted scalars may run over several lines. A single line break in them is read as a blank,
and further breaks are kept; blanks around a break are dropped. Block scalars keep their lines, or
join them in the same way.
-/

namespace QualityGates.Yaml

/-- What has been read of a scalar, last character first, and the white space after it. -/
structure Folding where
  text : List Char := []
  blanks : List Char := []
  firstBreak : List Char := []
  otherBreaks : List Char := []
  /-- Whether a line break has been passed since the last character. -/
  broken : Bool := false

namespace Folding

/-- What the white space after the last character stands for, if another character follows. -/
def space (f : Folding) : List Char :=
  if f.broken then
    match f.firstBreak with
    | '\n' :: _ => if f.otherBreaks.isEmpty then [' '] else f.otherBreaks
    | _ => f.firstBreak ++ f.otherBreaks
  else f.blanks

/-- Adds the white space to the text. -/
def join (f : Folding) : Folding :=
  { text := f.space.reverse ++ f.text }

/-- Adds a character to the text. -/
def push (f : Folding) (c : Char) : Folding :=
  { f with text := c :: f.text }

/-- Adds a line break to the white space. -/
def addBreak (f : Folding) (breakText : List Char) : Folding :=
  if f.broken then { f with otherBreaks := f.otherBreaks ++ breakText }
  else { f with blanks := [], firstBreak := breakText, broken := true }

/-- Passes white space. A tab that stands left of `limit` at the start of a line is refused. -/
def passSpace (limit : Int) : (fuel : Nat) → Folding → Cursor → Option (Folding × Cursor)
  | 0, f, c => some (f, c)
  | fuel + 1, f, c =>
    match c.rest with
    | [] => some (f, c)
    | d :: _ =>
      if isBlank d then
        if f.broken then
          if d = '\t' ∧ (c.mark.column : Int) < limit then none else passSpace limit fuel f c.skip
        else passSpace limit fuel { f with blanks := f.blanks ++ [d] } c.skip
      else if isBreak d then passSpace limit fuel (f.addBreak c.breakText) c.skipBreak
      else some (f, c)

/-- The text that has been read. -/
def result (f : Folding) : String :=
  String.ofList f.text.reverse

end Folding

/-! ## Plain scalars -/

/-- Indicators that end a plain scalar inside brackets. -/
def endsInBrackets (c : Char) : Bool :=
  c == ',' || c == '[' || c == ']' || c == '\x7b' || c == '\x7d'

/-- Whether a plain scalar ends in front of a character. -/
def endsPlain (brackets : Bool) (c : Cursor) : Bool :=
  match c.rest with
  | [] => true
  | d :: _ =>
    isBlankOrEnd (some d) || (d == ':' && isBlankOrEnd (c.peek? 1)) ||
      (brackets && endsInBrackets d)

/-- Whether a colon stands where it is refused. -/
def strayColon (brackets : Bool) (c : Cursor) : Bool :=
  brackets && c.has 0 ':' &&
    (match c.peek? 1 with
    | some d => d == '?' || endsInBrackets d
    | none => false)

/-- Reads characters that are not blank. -/
def readPlainRun (brackets : Bool) : (fuel : Nat) → Folding → Cursor → Option (Folding × Cursor)
  | 0, f, c => some (f, c)
  | fuel + 1, f, c =>
    if isBlankOrEnd (c.peek? 0) then some (f, c)
    else if strayColon brackets c then none
    else if endsPlain brackets c then some (f, c)
    else
      match c.rest with
      | [] => some (f, c)
      | d :: _ => readPlainRun brackets fuel (f.join.push d) c.skip

/-- Reads the lines of a plain scalar whose later lines stand at column `indent` or further right.
-/
def readPlainLines (brackets : Bool) (indent : Int) :
    (fuel : Nat) → Folding → Cursor → Option (Folding × Cursor)
  | 0, f, c => some (f, c)
  | fuel + 1, f, c =>
    if c.atIndicator '-' || c.atIndicator '.' || c.has 0 '#' then some (f, c)
    else
      match readPlainRun brackets (c.rest.length + 1) f c with
      | none => none
      | some (f, c) =>
        match c.rest with
        | [] => some (f, c)
        | d :: _ =>
          if isBlank d || isBreak d then
            match f.passSpace indent (c.rest.length + 1) c with
            | none => none
            | some (f, c) =>
              if !brackets && (c.mark.column : Int) < indent then some (f, c)
              else readPlainLines brackets indent fuel f c
          else some (f, c)

/-- A scalar, whether a line break follows it, and the text after it. -/
structure ReadScalar where
  text : String
  broken : Bool
  after : Cursor

/-- Reads a plain scalar. -/
def readPlain (brackets : Bool) (indent : Int) (c : Cursor) : Option ReadScalar :=
  (readPlainLines brackets indent (c.rest.length + 1) {} c).map
    (fun (f, c) => ⟨f.result, f.broken, c⟩)

/-! ## Quoted scalars -/

/-- The value of a hexadecimal digit. -/
def hexValue? (c : Char) : Option Nat :=
  if '0' ≤ c && c ≤ '9' then some (c.toNat - '0'.toNat)
  else if 'a' ≤ c && c ≤ 'f' then some (c.toNat - 'a'.toNat + 10)
  else if 'A' ≤ c && c ≤ 'F' then some (c.toNat - 'A'.toNat + 10)
  else none

/-- The character whose code is written in `width` hexadecimal digits. -/
def codeChar? (width : Nat) (cs : List Char) : Option Char :=
  let digits := cs.take width
  if digits.length = width then
    match digits.mapM hexValue? with
    | some values =>
      let n := values.foldl (fun n d => 16 * n + d) 0
      if h : n.isValidChar then some (Char.ofNatAux n h) else none
    | none => none
  else none

/-- The character that a letter stands for after a backslash. -/
def escapedChar? (c : Char) : Option Char :=
  match c with
  | '0' => some '\x00'
  | 'a' => some '\x07'
  | 'b' => some '\x08'
  | 't' => some '\t'
  | '\t' => some '\t'
  | 'n' => some '\n'
  | 'v' => some '\x0b'
  | 'f' => some '\x0c'
  | 'r' => some '\r'
  | 'e' => some '\x1b'
  | ' ' => some ' '
  | '"' => some '"'
  | '/' => some '/'
  | '\\' => some '\\'
  | 'N' => some '\x85'
  | '_' => some '\xa0'
  | 'L' => some '\u2028'
  | 'P' => some '\u2029'
  | _ => none

/-- The number of digits after a letter that starts the code of a character. -/
def codeWidth? (c : Char) : Option Nat :=
  match c with
  | 'x' => some 2
  | 'u' => some 4
  | 'U' => some 8
  | _ => none

/-- Reads the character after a backslash. -/
def readEscape (c : Cursor) : Option (Char × Cursor) :=
  match c.rest with
  | [] => none
  | d :: digits =>
    match codeWidth? d with
    | some width => (codeChar? width digits).map (fun e => (e, c.skipMany (width + 1)))
    | none => (escapedChar? d).map (fun e => (e, c.skip))

/-- Reads characters that are not blank up to the closing quotation mark. -/
def readQuotedRun (quote : Char) : (fuel : Nat) → Folding → Cursor → Option (Folding × Cursor)
  | 0, f, c => some (f, c)
  | fuel + 1, f, c =>
    if isBlankOrEnd (c.peek? 0) then some (f, c)
    else
      match c.rest with
      | [] => some (f, c)
      | d :: more =>
        if quote = '\'' ∧ d = '\'' ∧ more.head? = some '\'' then
          readQuotedRun quote fuel (f.push '\'') (c.skipMany 2)
        else if d = quote then some (f, c)
        else if quote = '"' ∧ d = '\\' then
          if isBreak (more.head?.getD ' ') then
            some ({ f with broken := true }, c.skip.skipBreak)
          else
            match readEscape c.skip with
            | none => none
            | some (e, c) => readQuotedRun quote fuel (f.push e) c
        else readQuotedRun quote fuel (f.push d) c.skip

/-- Reads the lines of a quoted scalar. -/
def readQuotedLines (quote : Char) : (fuel : Nat) → Folding → Cursor → Option (Folding × Cursor)
  | 0, _, _ => none
  | fuel + 1, f, c =>
    if c.atIndicator '-' || c.atIndicator '.' || c.rest.isEmpty then none
    else
      match readQuotedRun quote (c.rest.length + 1) f c with
      | none => none
      | some (f, c) =>
        if c.has 0 quote then some (f, c.skip)
        else
          match f.passSpace 0 (c.rest.length + 1) c with
          | none => none
          | some (f, c) => readQuotedLines quote fuel f.join c

/-- Reads a scalar between quotation marks. -/
def readQuoted (quote : Char) (c : Cursor) : Option ReadScalar :=
  (readQuotedLines quote (c.rest.length + 1) {} c.skip).map (fun (f, c) => ⟨f.result, false, c⟩)

/-! ## Block scalars -/

/-- What happens to the line breaks at the end of a block scalar. -/
inductive Chomping where
  | strip
  | clip
  | keep
  deriving DecidableEq

/-- Reads a chomping indicator. -/
def readChomping (c : Cursor) : Option Chomping × Cursor :=
  if c.has 0 '+' then (some .keep, c.skip)
  else if c.has 0 '-' then (some .strip, c.skip)
  else (none, c)

/-- Reads an indentation indicator; zero is refused. -/
def readIncrement (c : Cursor) : Option (Nat × Cursor) :=
  match c.rest with
  | d :: _ =>
    if d = '0' then none
    else if '1' ≤ d && d ≤ '9' then some (d.toNat - '0'.toNat, c.skip)
    else some (0, c)
  | [] => some (0, c)

/-- Reads the indicators after `|` or `>` in either order. -/
def readHeader (c : Cursor) : Option (Chomping × Nat × Cursor) :=
  match readChomping c with
  | (some chomping, c) =>
    (readIncrement c).map (fun (increment, c) => (chomping, increment, c))
  | (none, c) =>
    match readIncrement c with
    | none => none
    | some (0, c) => some (.clip, 0, c)
    | some (increment, c) =>
      let (chomping, c) := readChomping c
      some (chomping.getD .clip, increment, c)

/-- Passes indentation and empty lines. The indentation is `indent`, or unknown if that is zero;
`widest` is the widest one seen. -/
def passIndentation (indent : Nat) : (fuel : Nat) → (widest : Nat) → (breaks : List Char) →
    Cursor → Option (Nat × List Char × Cursor)
  | 0, widest, breaks, c => some (widest, breaks, c)
  | fuel + 1, widest, breaks, c =>
    let inside (d : Char) (column : Nat) : Bool := d == ' ' && (indent == 0 || column < indent)
    match c.rest with
    | [] => some (max widest c.mark.column, breaks, c)
    | d :: _ =>
      if inside d c.mark.column then passIndentation indent fuel widest breaks c.skip
      else
        let widest := max widest c.mark.column
        if d = '\t' ∧ (indent = 0 ∨ c.mark.column < indent) then none
        else if isBreak d then
          passIndentation indent fuel widest (breaks ++ c.breakText) c.skipBreak
        else some (widest, breaks, c)

/-- What has been read of a block scalar, last character first. -/
structure BlockText where
  text : List Char
  firstBreak : List Char
  otherBreaks : List Char
  startsBlank : Bool

/-- Adds the line breaks that stand before a line. -/
def BlockText.join (b : BlockText) (literal blank : Bool) : List Char :=
  if !literal && b.firstBreak.head? == some '\n' && !b.startsBlank && !blank then
    if b.otherBreaks.isEmpty then ' ' :: b.text else b.otherBreaks.reverse ++ b.text
  else b.otherBreaks.reverse ++ (b.firstBreak.reverse ++ b.text)

/-- Reads the lines of a block scalar that stand at column `indent`. -/
def readBlockLines (literal : Bool) (indent : Nat) :
    (fuel : Nat) → BlockText → Cursor → Option (BlockText × Cursor)
  | 0, b, c => some (b, c)
  | fuel + 1, b, c =>
    match c.rest with
    | [] => some (b, c)
    | d :: _ =>
      if c.mark.column = indent then
        let blank := isBlank d
        let line := c.rest.takeWhile (fun e => !isBreak e)
        let behind := c.skipToBreak
        match passIndentation indent (behind.rest.length + 1) 0 [] behind.skipBreak with
        | none => none
        | some (_, breaks, after) =>
          readBlockLines literal indent fuel
            ⟨line.reverse ++ b.join literal blank, behind.breakText, breaks, blank⟩ after
      else some (b, c)

/-- Reads a block scalar inside a collection at column `parent`. -/
def readBlock (literal : Bool) (parent : Int) (c : Cursor) : Option ReadScalar :=
  match readHeader c.skip with
  | none => none
  | some (chomping, increment, c) =>
    match c.finishLine with
    | none => none
    | some c =>
      let base := parent.toNat
      let given := if increment = 0 then 0 else if 0 ≤ parent then base + increment else increment
      match passIndentation given (c.rest.length + 1) 0 [] c with
      | none => none
      | some (widest, breaks, c) =>
        let indent :=
          if given = 0 then max (max widest (parent + 1).toNat) 1 else given
        match readBlockLines literal indent (c.rest.length + 1) ⟨[], [], breaks, false⟩ c with
        | none => none
        | some (b, c) =>
          let text :=
            match chomping with
            | .strip => b.text
            | .clip => b.firstBreak.reverse ++ b.text
            | .keep => b.otherBreaks.reverse ++ (b.firstBreak.reverse ++ b.text)
          some ⟨String.ofList text.reverse, true, c⟩

end QualityGates.Yaml
