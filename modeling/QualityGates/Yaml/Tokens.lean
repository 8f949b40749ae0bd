import QualityGates.Yaml.Property

/-!
# The tokens of a YAML text

A scalar, alias or collection that is followed by a colon on its line was a key, which only shows
when the colon is reached; the key token is then put in front of it. Until that is decided, the
token counts as pending. Where the text breaks the rules of YAML, the tokens before the first
pending one are kept.
-/

namespace QualityGates.Yaml

/-- A token that may turn out to be a key. -/
structure PendingKey where
  possible : Bool := false
  /-- Whether the text is wrong if no colon follows. -/
  required : Bool := false
  /-- How many tokens stand before the key. -/
  number : Nat := 0
  mark : Mark := ⟨0, 0, 0⟩
  deriving Inhabited

/-- The state of reading: the tokens so far, last one first, and the collections around the place
that has been reached. -/
structure Layout where
  cursor : Cursor
  tokens : List (Mark × Token) := []
  count : Nat := 0
  /-- The column of the innermost block collection, `-1` outside of all. -/
  indent : Int := -1
  outer : List Int := []
  keyAllowed : Bool := true
  pending : PendingKey := {}
  /-- The pending keys outside of the open brackets, innermost first. -/
  brackets : List PendingKey := []
  finished : Bool := false

namespace Layout

/-- Whether the place is inside brackets. -/
def inBrackets (s : Layout) : Bool :=
  !s.brackets.isEmpty

/-- Adds a token. -/
def push (s : Layout) (mark : Mark) (token : Token) : Layout :=
  { s with tokens := (mark, token) :: s.tokens, count := s.count + 1 }

/-- Puts a token in front of the token with number `number`. -/
def insert (s : Layout) (number : Nat) (mark : Mark) (token : Token) : Layout :=
  let behind := s.count - number
  { s with
    tokens := s.tokens.take behind ++ (mark, token) :: s.tokens.drop behind
    count := s.count + 1 }

/-- The column that has been reached. -/
def column (s : Layout) : Int :=
  s.cursor.mark.column

/-- Starts a block collection at a column unless it has been started. -/
def openBlock (s : Layout) (column : Int) (number : Nat) (mark : Mark) (token : Token) : Layout :=
  if !s.inBrackets && s.indent < column then
    { s.insert number mark token with indent := column, outer := s.indent :: s.outer }
  else s

/-- Ends the block collections that stand right of a column. -/
def closeBlocks (s : Layout) (column : Int) : (fuel : Nat) → Layout
  | 0 => s
  | fuel + 1 =>
    if !s.inBrackets && column < s.indent then
      let closed := s.push s.cursor.mark .blockEnd
      match s.outer with
      | indent :: outer => closeBlocks { closed with indent := indent, outer := outer } column fuel
      | [] => closed
    else s

/-- Ends the block collections that stand right of a column. -/
def close (s : Layout) (column : Int) : Layout :=
  s.closeBlocks column (s.outer.length + 1)

/-- Gives up the pending key; none if it was required. -/
def dropKey (s : Layout) : Option Layout :=
  if s.pending.possible && s.pending.required then none
  else some { s with pending := { s.pending with possible := false } }

/-- Notes that the next token may be a key. -/
def noteKey (s : Layout) : Option Layout :=
  if s.keyAllowed then
    s.dropKey.map (fun s =>
      { s with
        pending :=
          { possible := true
            required := !s.inBrackets && s.indent == s.column
            number := s.count
            mark := s.cursor.mark } })
  else some s

/-- The most characters of a key. -/
def keyLimit : Nat := 1024

/-- Whether a pending key is out of reach of a colon at a place. -/
def isStale (mark : Mark) (key : PendingKey) : Bool :=
  key.possible && (key.mark.line < mark.line || key.mark.index + keyLimit < mark.index)

/-- Gives up a pending key that is out of reach. -/
def refreshKey (mark : Mark) (key : PendingKey) : PendingKey :=
  if isStale mark key then { key with possible := false } else key

/-- Gives up the pending keys that are out of reach; none if one was required. -/
def refresh (s : Layout) : Option Layout :=
  let mark := s.cursor.mark
  if (s.pending :: s.brackets).any (fun key => isStale mark key && key.required) then none
  else
    some { s with
      pending := refreshKey mark s.pending
      brackets := s.brackets.map (refreshKey mark) }

/-- The number of tokens in front of the first pending key. -/
def settled (s : Layout) : Nat :=
  (s.pending :: s.brackets).foldl
    (fun n key => if key.possible then min n key.number else n) s.count

/-- The character that may stand at the start of a text without a meaning. -/
def isMark (c : Char) : Bool :=
  c == '\uFEFF'

/-- Moves to the next token, past blanks, comments and line breaks. -/
def toToken : (fuel : Nat) → Layout → Layout
  | 0, s => s
  | fuel + 1, s =>
    let c := s.cursor
    let c :=
      match c.rest with
      | d :: _ => if c.mark.index = 0 ∧ isMark d then c.skip else c
      | [] => c
    let tabs := s.inBrackets || !s.keyAllowed
    let c := c.skipWhile (fun d => d == ' ' || (tabs && d == '\t'))
    let c := if c.has 0 '#' then c.skipToBreak else c
    match c.rest with
    | d :: _ =>
      if isBreak d then
        toToken fuel
          { s with cursor := c.skipBreak, keyAllowed := s.keyAllowed || !s.inBrackets }
      else { s with cursor := c }
    | [] => { s with cursor := c }

/-- Adds a token of `n` characters. -/
def take (s : Layout) (n : Nat) (token : Token) : Layout :=
  { s.push s.cursor.mark token with cursor := s.cursor.skipMany n }

/-- Ends the text. -/
def takeEnd (s : Layout) : Option Layout :=
  let mark := s.cursor.mark
  let mark := if mark.column = 0 then mark else { mark with line := mark.line + 1, column := 0 }
  let s := { s with cursor := { s.cursor with mark := mark } }
  (s.close (-1)).dropKey.map (fun s =>
    { s.push mark .streamEnd with keyAllowed := false, finished := true })

/-- Takes a directive. -/
def takeDirective (s : Layout) : Option Layout :=
  match (s.close (-1)).dropKey with
  | none => none
  | some s =>
    (readDirective s.cursor).map (fun (token, c) =>
      { s.push s.cursor.mark token with cursor := c, keyAllowed := false })

/-- Takes a line that starts or ends a document. -/
def takeIndicator (s : Layout) (token : Token) : Option Layout :=
  (s.close (-1)).dropKey.map (fun s => { s.take 3 token with keyAllowed := false })

/-- Takes an opening bracket. -/
def takeOpening (s : Layout) (token : Token) : Option Layout :=
  s.noteKey.map (fun s =>
    { s.take 1 token with keyAllowed := true, pending := {}, brackets := s.pending :: s.brackets })

/-- Takes a closing bracket. -/
def takeClosing (s : Layout) (token : Token) : Option Layout :=
  s.dropKey.map (fun s =>
    match s.brackets with
    | pending :: brackets =>
      { s.take 1 token with keyAllowed := false, pending := pending, brackets := brackets }
    | [] => { s.take 1 token with keyAllowed := false })

/-- Takes a comma between brackets. -/
def takeComma (s : Layout) : Option Layout :=
  s.dropKey.map (fun s => { s.take 1 .comma with keyAllowed := true })

/-- Takes the dash of an element. -/
def takeDash (s : Layout) : Option Layout :=
  if !s.inBrackets && !s.keyAllowed then none
  else
    (s.openBlock s.column s.count s.cursor.mark .blockSequence).dropKey.map (fun s =>
      { s.take 1 .dash with keyAllowed := true })

/-- Takes the question mark of a key. -/
def takeKey (s : Layout) : Option Layout :=
  if !s.inBrackets && !s.keyAllowed then none
  else
    (s.openBlock s.column s.count s.cursor.mark .blockMapping).dropKey.map (fun s =>
      { s.take 1 .key with keyAllowed := !s.inBrackets })

/-- Takes the colon of a value; a pending token is its key. -/
def takeValue (s : Layout) : Option Layout :=
  if s.pending.possible then
    let key := s.pending
    let s := s.insert key.number key.mark .key
    let s := s.openBlock key.mark.column key.number key.mark .blockMapping
    some { s.take 1 .value with keyAllowed := false, pending := { key with possible := false } }
  else if !s.inBrackets && !s.keyAllowed then none
  else
    let s := s.openBlock s.column s.count s.cursor.mark .blockMapping
    some { s.take 1 .value with keyAllowed := !s.inBrackets }

/-- Takes an anchor or an alias. -/
def takeName (s : Layout) (token : String → Token) : Option Layout :=
  match s.noteKey with
  | none => none
  | some s =>
    (readAnchorName s.cursor).map (fun (name, c) =>
      { s.push s.cursor.mark (token name) with cursor := c, keyAllowed := false })

/-- Takes a tag. -/
def takeTag (s : Layout) : Option Layout :=
  match s.noteKey with
  | none => none
  | some s =>
    (readTag s.inBrackets s.cursor).map (fun (token, c) =>
      { s.push s.cursor.mark token with cursor := c, keyAllowed := false })

/-- Takes a block scalar. -/
def takeBlock (s : Layout) (style : Style) : Option Layout :=
  match s.dropKey with
  | none => none
  | some s =>
    (readBlock (style == .literal) s.indent s.cursor).map (fun read =>
      { s.push s.cursor.mark (.scalar read.text style) with
        cursor := read.after, keyAllowed := true })

/-- Takes a quoted scalar. -/
def takeQuoted (s : Layout) (quote : Char) (style : Style) : Option Layout :=
  match s.noteKey with
  | none => none
  | some s =>
    (readQuoted quote s.cursor).map (fun read =>
      { s.push s.cursor.mark (.scalar read.text style) with
        cursor := read.after, keyAllowed := false })

/-- Takes a plain scalar. -/
def takePlain (s : Layout) : Option Layout :=
  match s.noteKey with
  | none => none
  | some s =>
    (readPlain s.inBrackets (s.indent + 1) s.cursor).map (fun read =>
      { s.push s.cursor.mark (.scalar read.text .plain) with
        cursor := read.after, keyAllowed := read.broken })

/-- Indicators that no plain scalar starts with. -/
def isIndicator (c : Char) : Bool :=
  "-?:,[]\x7b\x7d#&*!|>'\"%@\x60".toList.contains c

/-- Whether a plain scalar starts with a character. -/
def startsPlain (brackets : Bool) (c : Char) (next : Option Char) : Bool :=
  !(isIndicator c || isBlankOrEnd (some c)) ||
    (c == '-' && !(next.any isBlank)) ||
    (!brackets && (c == '?' || c == ':') && !isBlankOrEnd next)

/-- Takes the token that stands here. -/
def takeToken (s : Layout) : Option Layout :=
  let c := s.cursor
  match c.rest with
  | [] => s.takeEnd
  | d :: _ =>
    let next := c.peek? 1
    let apart := isBlankOrEnd next
    if c.mark.column = 0 ∧ d = '%' then s.takeDirective
    else if c.atIndicator '-' then s.takeIndicator .documentStart
    else if c.atIndicator '.' then s.takeIndicator .documentEnd
    else if d = '[' then s.takeOpening .openSequence
    else if d = '\x7b' then s.takeOpening .openMapping
    else if d = ']' then s.takeClosing .closeSequence
    else if d = '\x7d' then s.takeClosing .closeMapping
    else if d = ',' then s.takeComma
    else if d = '-' ∧ apart then s.takeDash
    else if d = '?' ∧ (s.inBrackets ∨ apart) then s.takeKey
    else if d = ':' ∧ (s.inBrackets ∨ apart) then s.takeValue
    else if d = '*' then s.takeName .alias
    else if d = '&' then s.takeName .anchor
    else if d = '!' then s.takeTag
    else if d = '|' ∧ !s.inBrackets then s.takeBlock .literal
    else if d = '>' ∧ !s.inBrackets then s.takeBlock .folded
    else if d = '\'' then s.takeQuoted '\'' .singleQuoted
    else if d = '"' then s.takeQuoted '"' .doubleQuoted
    else if startsPlain s.inBrackets d next then s.takePlain
    else none

/-- Moves to the next token and takes it. -/
def step (s : Layout) : Option Layout :=
  match (toToken (s.cursor.rest.length + 1) s).refresh with
  | none => none
  | some s =>
    match (s.close s.column).takeToken with
    | none => none
    | some s => s.refresh

/-- Takes token after token; tells whether the end of the text was reached. -/
def run : (fuel : Nat) → Layout → List (Mark × Token) × Bool
  | 0, s => (s.tokens.reverse.take s.settled, false)
  | fuel + 1, s =>
    if s.finished then (s.tokens.reverse, true)
    else
      match s.step with
      | none => (s.tokens.reverse.take s.settled, false)
      | some next => run fuel next

end Layout

/-- The tokens of a text with their places. A text with a character that YAML does not allow has
none. -/
def tokens (cs : List Char) : List (Mark × Token) :=
  if cs.all isAllowed then (Layout.run (cs.length + 2) { cursor := .start cs }).1 else []

end QualityGates.Yaml
