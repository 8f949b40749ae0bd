import QualityGates.Pattern.Basic
import QualityGates.Pattern.Property

/-!
# Reading patterns

The written form of patterns: literals, `.`, bracketed classes with ranges, nesting and set
operations, the classes `\d`, `\s`, `\w` and `\p` with their complements, edges such as `^`, `$` and
`\b`, groups with names and flags, alternatives, and greedy or lazy repetition. Look-around and back
references have no place in it.

Greediness and capture only tell how a match is chosen, not whether there is one, so both are read
and forgotten. A pattern that would be too large is refused. How large a pattern is depends on the
form that the matching library compiles it to; the sizes here stand in for that form.
-/

namespace QualityGates.Pattern

/-- How the characters that follow are read. -/
structure Flags where
  anyCase : Bool := false
  multiLine : Bool := false
  dotAll : Bool := false
  verbose : Bool := false
  carriageReturn : Bool := false
  unicode : Bool := true
  deriving DecidableEq, Repr, Inhabited

/-- What a backslash and the characters after it stand for. -/
inductive Escape where
  | literal (c : Char)
  | set (s : CharSet)
  | edge (e : Edge)

/-- Characters that have a meaning of their own and stand for themselves after a backslash. -/
def isMeta (c : Char) : Bool :=
  "\\.+*?()|[]\x7b\x7d^$#&-~".toList.contains c

/-- Characters that may stand after a backslash for themselves. -/
def isEscapable (c : Char) : Bool :=
  isMeta c || (c.toNat < 128 && !c.isAlphanum && c != '<' && c != '>')

/-- The written form of literal characters. -/
def quoteChars (cs : List Char) : List Char :=
  cs.flatMap (fun c => if isMeta c then ['\\', c] else [c])

/-- The value of a hexadecimal digit. -/
def hexDigit? (c : Char) : Option Nat :=
  if '0' ≤ c && c ≤ '9' then some (c.toNat - '0'.toNat)
  else if 'a' ≤ c && c ≤ 'f' then some (c.toNat - 'a'.toNat + 10)
  else if 'A' ≤ c && c ≤ 'F' then some (c.toNat - 'A'.toNat + 10)
  else none

/-- The character with the code point written in hexadecimal. -/
def hexChar? (digits : List Char) : Option Char :=
  match digits.mapM hexDigit? with
  | some (d :: ds) =>
    let n := (d :: ds).foldl (fun n d => 16 * n + d) 0
    if h : n.isValidChar then some (Char.ofNatAux n h) else none
  | _ => none

/-- Reads a code point with a fixed number of digits or in braces. -/
def readHex (width : Nat) : List Char → Option (Char × List Char)
  | '\x7b' :: rest =>
    match rest.dropWhile (fun c => c != '\x7d') with
    | _ :: after => (hexChar? (rest.takeWhile (fun c => c != '\x7d'))).map (fun c => (c, after))
    | [] => none
  | cs =>
    if cs.length < width then none
    else (hexChar? (cs.take width)).map (fun c => (c, cs.drop width))

/-- The ASCII part of a set when characters outside ASCII are switched off. -/
def restrict (flags : Flags) (s : CharSet) : CharSet :=
  if flags.unicode then s else .inter s (.between '\x00' '\x7f')

/-- A set, unless it reaches outside ASCII where those characters are switched off. A set that is
made of ASCII sets holds all characters outside ASCII but the case variants of letters, or none. -/
def allowed? (flags : Flags) (s : CharSet) : Option CharSet :=
  if flags.unicode || !s.contains '\u0080' then some (restrict flags s) else none

/-- What is left out by the ASCII part of a set, or by the set. -/
def complement? (flags : Flags) (s : CharSet) : Option CharSet :=
  allowed? flags (.complement (restrict flags s))

/-- Whether a character is in reach: all are, unless those outside ASCII are switched off. -/
def inReach (flags : Flags) (c : Char) : Bool :=
  flags.unicode || c.toNat < 128

/-- The edge named between braces after `\b`. -/
def namedEdge? (name : String) : Option Edge :=
  match name with
  | "start" => some .wordStart
  | "end" => some .wordEnd
  | "start-half" => some .noWordBefore
  | "end-half" => some .noWordAfter
  | _ => none

/-- Reads what follows `\b`: a name in braces or nothing. Braces that hold no name belong to a
repetition. -/
def readWordEdge : List Char → Option (Escape × List Char)
  | '\x7b' :: c :: rest =>
    if c.isAlpha || c == '-' then
      match (c :: rest).dropWhile (fun d => d.isAlpha || d == '-') with
      | '\x7d' :: after =>
        (namedEdge? (String.ofList ((c :: rest).takeWhile (fun d => d.isAlpha || d == '-')))).map
          (fun e => (.edge e, after))
      | _ => none
    else some (.edge .wordEdge, '\x7b' :: c :: rest)
  | cs => some (.edge .wordEdge, cs)

/-- Reads the name of a property after `\p`: one letter, or a name in braces. -/
def readPropertyName : List Char → Option (List Char × List Char)
  | '\x7b' :: rest =>
    match rest.dropWhile (fun c => c != '\x7d') with
    | _ :: after => some (rest.takeWhile (fun c => c != '\x7d'), after)
    | [] => none
  | c :: rest => some ([c], rest)
  | [] => none

/-- Reads a property after `\p`, which needs characters outside ASCII. -/
def readProperty (flags : Flags) (cs : List Char) : Option (CharSet × List Char) := do
  let (name, after) ← readPropertyName cs
  let s ← property? name
  if flags.unicode then return (if flags.anyCase then .anyCase s else s, after) else none

/-- Reads what follows a backslash. -/
def readEscape (flags : Flags) : List Char → Option (Escape × List Char)
  | [] => none
  | c :: rest =>
    match c with
    | 'd' => some (.set (restrict flags .digit), rest)
    | 's' => some (.set (restrict flags .blank), rest)
    | 'w' => some (.set (restrict flags .word), rest)
    | 'D' => (complement? flags .digit).map (fun s => (.set s, rest))
    | 'S' => (complement? flags .blank).map (fun s => (.set s, rest))
    | 'W' => (complement? flags .word).map (fun s => (.set s, rest))
    | 'p' => (readProperty flags rest).map (fun (s, after) => (.set s, after))
    | 'P' => (readProperty flags rest).map (fun (s, after) => (.set (.complement s), after))
    | 'x' =>
      match readHex 2 rest with
      | some (c, after) =>
        if inReach flags c || rest.head? == some '\x7b' then some (.literal c, after) else none
      | none => none
    | 'u' => (readHex 4 rest).map (fun (c, after) => (.literal c, after))
    | 'U' => (readHex 8 rest).map (fun (c, after) => (.literal c, after))
    | 'a' => some (.literal '\x07', rest)
    | 'f' => some (.literal '\x0c', rest)
    | 't' => some (.literal '\t', rest)
    | 'n' => some (.literal '\n', rest)
    | 'r' => some (.literal '\r', rest)
    | 'v' => some (.literal '\x0b', rest)
    | 'A' => some (.edge .textStart, rest)
    | 'z' => some (.edge .textEnd, rest)
    | 'b' => readWordEdge rest
    | 'B' => some (.edge .notWordEdge, rest)
    | '<' => some (.edge .wordStart, rest)
    | '>' => some (.edge .wordEnd, rest)
    | _ => if isEscapable c then some (.literal c, rest) else none

/-- Drops blanks and comments where the verbose flag asks for it. -/
def skipVerbose (flags : Flags) : List Char → List Char
  | [] => []
  | c :: rest =>
    if flags.verbose then
      if Text.isBlank c then skipVerbose flags rest
      else if c = '#' then skipComment rest
      else c :: rest
    else c :: rest
where
  /-- Drops a comment up to the end of its line, then goes on. -/
  skipComment : List Char → List Char
    | [] => []
    | c :: rest => if c = '\n' then skipVerbose flags rest else skipComment rest

/-! ## Bracketed classes -/

/-- The operations between the sets of a class. -/
inductive SetOp where
  | inter
  | minus
  | exclusive

/-- Applies a pending operation. -/
def SetOp.apply : Option (SetOp × CharSet) → CharSet → CharSet
  | none, s => s
  | some (inter, left), s => .inter left s
  | some (minus, left), s => .minus left s
  | some (exclusive, left), s => .exclusive left s

/-- The ASCII classes that are named between `[:` and `:]`. -/
def asciiClass? (name : String) : Option CharSet :=
  let lower := CharSet.between 'a' 'z'
  let upper := CharSet.between 'A' 'Z'
  let decimal := CharSet.between '0' '9'
  let graph := CharSet.between '!' '~'
  match name with
  | "alnum" => some (.unions [decimal, upper, lower])
  | "alpha" => some (.union upper lower)
  | "ascii" => some (.between '\x00' '\x7f')
  | "blank" => some (.union (.one '\t') (.one ' '))
  | "cntrl" => some (.union (.between '\x00' '\x1f') (.one '\x7f'))
  | "digit" => some decimal
  | "graph" => some graph
  | "lower" => some lower
  | "print" => some (.between ' ' '~')
  | "punct" => some (.minus graph (.unions [decimal, upper, lower]))
  | "space" => some (.union (.between '\t' '\r') (.one ' '))
  | "upper" => some upper
  | "word" => some (.unions [decimal, upper, lower, .one '_'])
  | "xdigit" => some (.unions [decimal, .between 'A' 'F', .between 'a' 'f'])
  | _ => none

/-- Reads a named ASCII class after its opening bracket. -/
def readAsciiClass : List Char → Option (CharSet × List Char)
  | ':' :: rest =>
    let (negated, named) :=
      match rest with
      | '^' :: more => (true, more)
      | _ => (false, rest)
    let name := String.ofList (named.takeWhile Char.isAlpha)
    match named.dropWhile Char.isAlpha, asciiClass? name with
    | ':' :: ']' :: after, some s => some (if negated then .complement s else s, after)
    | _, _ => none
  | _ => none

/-- Reads one member of a class: a character or an escape. -/
def readMember (flags : Flags) : List Char → Option (Escape × List Char)
  | '\\' :: rest => readEscape flags rest
  | c :: rest => some (.literal c, rest)
  | [] => none

/-- Reads a member or a range of members. -/
def readRange (flags : Flags) (cs : List Char) : Option (CharSet × List Char) := do
  let (first, rest) ← readMember flags cs
  let rest := skipVerbose flags rest
  let alone : Option (CharSet × List Char) :=
    match first with
    | .literal c => if inReach flags c then some (.one c, rest) else none
    | .set s => some (s, rest)
    | .edge _ => none
  match rest with
  | '-' :: after =>
    match skipVerbose flags after with
    | ']' :: _ => alone
    | '-' :: _ => alone
    | more =>
      let (last, rest) ← readMember flags more
      match first, last with
      | .literal low, .literal high =>
        if low ≤ high && inReach flags high then some (.between low high, rest) else none
      | _, _ => none
  | _ => alone

/-- Reads the hyphens and the closing bracket that stand for themselves at the start of a class. -/
def readLeading (flags : Flags) (cs : List Char) : List CharSet × List Char :=
  let cs := skipVerbose flags cs
  let hyphens := cs.takeWhile (fun c => c == '-')
  let rest := cs.dropWhile (fun c => c == '-')
  match hyphens, rest with
  | [], ']' :: more => ([.one ']'], more)
  | [], _ => ([], rest)
  | _, _ => ([.one '-'], rest)

/-- The union of the members read so far. -/
def members (flags : Flags) (sets : List CharSet) : CharSet :=
  if flags.anyCase then .anyCase (.unions sets) else .unions sets

/-- Reads the rest of a class after its opening bracket. -/
def readClass (flags : Flags) : (fuel : Nat) → List Char → Option (CharSet × List Char)
  | 0, _ => none
  | fuel + 1, cs =>
    let opened := skipVerbose flags cs
    let (negated, inner) :=
      match opened with
      | '^' :: more => (true, more)
      | _ => (false, opened)
    let (leading, rest) := readLeading flags inner
    match readMembers flags fuel none leading rest with
    | some (s, after) =>
      (allowed? flags (if negated then .complement s else s)).map (fun s => (s, after))
    | none => none
where
  /-- Reads members and operations up to the closing bracket. -/
  readMembers (flags : Flags) : (fuel : Nat) → Option (SetOp × CharSet) → List CharSet →
      List Char → Option (CharSet × List Char)
    | 0, _, _, _ => none
    | fuel + 1, pending, sets, cs =>
      match skipVerbose flags cs with
      | [] => none
      | ']' :: rest => some (SetOp.apply pending (members flags sets), rest)
      | '&' :: '&' :: rest =>
        readMembers flags fuel (some (.inter, SetOp.apply pending (members flags sets))) [] rest
      | '-' :: '-' :: rest =>
        readMembers flags fuel (some (.minus, SetOp.apply pending (members flags sets))) [] rest
      | '~' :: '~' :: rest =>
        readMembers flags fuel (some (.exclusive, SetOp.apply pending (members flags sets))) [] rest
      | '[' :: rest =>
        match readAsciiClass rest with
        | some (s, after) => readMembers flags fuel pending (sets ++ [s]) after
        | none =>
          match readClass flags fuel rest with
          | some (s, after) => readMembers flags fuel pending (sets ++ [s]) after
          | none => none
      | cs =>
        match readRange flags cs with
        | some (s, after) => readMembers flags fuel pending (sets ++ [s]) after
        | none => none

/-! ## Groups and repetition -/

/-- The most steps that a pattern may take. This stands in for the ten mebibytes that the matching
library allows a compiled pattern: a step takes 32 bytes, so these are 327680 steps, of which some
are left to what the library puts around a pattern. -/
def sizeLimit : Nat := 300000

/-- How many steps a choice takes, given those of its alternatives together. The library compiles
alternatives that are all texts to a tree, which takes 68 bytes where a text on its own takes 32;
what texts share in it is not taken off. -/
def choiceSize (areTexts : Bool) (alternatives steps : Nat) : Nat :=
  let joined := steps + 2 * (alternatives - 1)
  if areTexts && 1 < alternatives then (17 * joined + 7) / 8 else joined

/-- How many steps a character of a set takes. A character takes one for each of its bytes; the
figures for larger sets stand in for the ranges of bytes that the library compiles them to. -/
def setSize : CharSet → Nat
  | .one c => c.utf8Size
  | .digit => 150
  | .word => 1200
  | .alphabetic => 1200
  | .assigned => 1200
  | .category _ => 200
  | .union a b => setSize a + setSize b
  | .inter a b => setSize a + setSize b
  | .complement s => setSize s + 10
  | .anyCase s => 2 * setSize s
  | _ => 10

/-- A part of a concatenation. -/
structure Piece where
  pattern : Pattern
  size : Nat
  repeatable : Bool := true

/-- What has been read of a group. -/
structure Group where
  alternatives : List Pattern := []
  pieces : List Piece := []
  size : Nat := 0
  names : List String := []

/-- Whether a pattern is a text of at least one character. -/
def isText : Pattern → Bool
  | char (.one _) => true
  | seq (char (.one _)) p => isText p
  | _ => false

namespace Group

/-- The concatenation of the pieces read since the last `|`. -/
def concatenation (g : Group) : Pattern :=
  sequence (g.pieces.reverse.map Piece.pattern)

/-- The alternatives of a finished group. -/
def choices (g : Group) : List Pattern :=
  g.alternatives ++ [g.concatenation]

/-- The pattern of a finished group. -/
def pattern (g : Group) : Pattern :=
  anyOf g.choices

/-- How many steps a finished group takes. -/
def total (g : Group) : Nat :=
  choiceSize (g.choices.all isText) g.choices.length g.size

/-- Starts the next alternative. -/
def next (g : Group) : Group :=
  { g with alternatives := g.alternatives ++ [g.concatenation], pieces := [] }

/-- Adds a piece. -/
def push (g : Group) (p : Pattern) (size : Nat) : Group :=
  { g with pieces := ⟨p, size, true⟩ :: g.pieces, size := g.size + size }

/-- Replaces the last piece by a repetition of it, unless that grows too large. -/
def repeated (g : Group) (f : Pattern → Pattern) (copies : Nat) : Option Group :=
  match g.pieces with
  | last :: before =>
    let size := last.size * copies + 1
    if last.repeatable && size ≤ sizeLimit then
      some { g with
        pieces := ⟨f last.pattern, size, true⟩ :: before
        size := g.size - last.size + size }
    else none
  | [] => none

end Group

/-- Reads the decimal number of a repetition count, with blanks around it. -/
def readCount (cs : List Char) : Option (Nat × List Char) :=
  let cs := cs.dropWhile Text.isBlank
  let digits := cs.takeWhile Char.isDigit
  let rest := (cs.dropWhile Char.isDigit).dropWhile Text.isBlank
  if digits.isEmpty then none
  else
    let n := digits.foldl (fun n c => 10 * n + (c.toNat - '0'.toNat)) 0
    if n < Nat.pow 2 32 then some (n, rest) else none

/-- Reads the bounds of a counted repetition after the opening brace; no upper bound means any
number. -/
def readBounds (cs : List Char) : Option (Nat × Option Nat × List Char) := do
  let (low, rest) ← readCount cs
  match rest with
  | '\x7d' :: after => return (low, some low, after)
  | ',' :: more =>
    match more.dropWhile Text.isBlank with
    | '\x7d' :: after => return (low, none, after)
    | more =>
      let (high, rest) ← readCount more
      match rest with
      | '\x7d' :: after => if low ≤ high then return (low, some high, after) else none
      | _ => none
  | _ => none

/-- Drops the mark of a lazy repetition. -/
def skipLazy : List Char → List Char
  | '?' :: rest => rest
  | cs => cs

/-- Between `low` and `high` repetitions. -/
def between (low : Nat) (high : Option Nat) (p : Pattern) : Pattern :=
  match high with
  | none => if low = 0 then star p else seq (times p low) (star p)
  | some high => if high = low then times p low else seq (times p low) (upTo p (high - low))

/-- Changes one flag. -/
def setFlag (flags : Flags) (on : Bool) (c : Char) : Option Flags :=
  match c with
  | 'i' => some { flags with anyCase := on }
  | 'm' => some { flags with multiLine := on }
  | 's' => some { flags with dotAll := on }
  | 'x' => some { flags with verbose := on }
  | 'R' => some { flags with carriageReturn := on }
  | 'u' => some { flags with unicode := on }
  | 'U' => some flags
  | _ => none

/-- Reads flag letters up to `)` or `:`, each at most once and one minus sign with a letter after
it. -/
def readFlags (flags : Flags) (on : Bool) (seen : List Char) :
    List Char → Option (Flags × List Char × List Char)
  | [] => none
  | ')' :: rest => if seen.head? = some '-' then none else some (flags, seen, ')' :: rest)
  | ':' :: rest => if seen.head? = some '-' then none else some (flags, seen, ':' :: rest)
  | c :: rest =>
    if seen.contains c then none
    else if c = '-' then readFlags flags false (c :: seen) rest
    else
      match setFlag flags on c with
      | some flags => readFlags flags on (c :: seen) rest
      | none => none

/-- Reads the name of a group up to `>`. -/
def readName (cs : List Char) : Option (String × List Char) :=
  let name := cs.takeWhile (fun c => c != '>')
  match name, cs.dropWhile (fun c => c != '>') with
  | first :: more, _ :: rest =>
    let isStart (c : Char) : Bool :=
      c == '_' || (Text.isWordChar c && !Text.isDecimalDigit c)
    let isNext (c : Char) : Bool := Text.isWordChar c || ".[]".toList.contains c
    if isStart first && more.all isNext then some (String.ofList name, rest) else none
  | _, _ => none

/-- What an opening parenthesis starts. -/
inductive Opening where
  | group (flags : Flags) (name : Option String) (rest : List Char)
  | flags (flags : Flags) (rest : List Char)

/-- Reads the part of a group before its content. -/
def readOpening (flags : Flags) (cs : List Char) : Option Opening :=
  match skipVerbose flags cs with
  | '?' :: '=' :: _ => none
  | '?' :: '!' :: _ => none
  | '?' :: '<' :: '=' :: _ => none
  | '?' :: '<' :: '!' :: _ => none
  | '?' :: 'P' :: '<' :: rest =>
    (readName rest).map (fun (name, rest) => .group flags (some name) rest)
  | '?' :: '<' :: rest => (readName rest).map (fun (name, rest) => .group flags (some name) rest)
  | '?' :: rest =>
    match readFlags flags true [] rest with
    | some (inner, _, ':' :: rest) => some (.group inner none rest)
    | some (inner, seen, ')' :: rest) => if seen.isEmpty then none else some (.flags inner rest)
    | _ => none
  | cs => some (.group flags none cs)

/-- The set of a literal character. -/
def literalSet (flags : Flags) (c : Char) : CharSet :=
  if flags.anyCase && inReach flags c then restrict flags (.anyCase (.one c)) else .one c

/-- The set of the dot. -/
def dotSet (flags : Flags) : CharSet :=
  if flags.dotAll then .every
  else if flags.carriageReturn then .complement (.union (.one '\r') (.one '\n'))
  else .complement (.one '\n')

/-- Adds one character of a set to a group. -/
def Group.pushSet (g : Group) (s : CharSet) : Group :=
  g.push (.char s) (setSize s)

/-- Reads the alternatives of a group up to its closing parenthesis or the end. -/
def readGroup : (fuel : Nat) → Flags → Group → List Char → Option (Group × List Char)
  | 0, _, _, _ => none
  | fuel + 1, flags, g, cs =>
    match skipVerbose flags cs with
    | [] => some (g, [])
    | ')' :: rest => some (g, ')' :: rest)
    | '|' :: rest => readGroup fuel flags g.next rest
    | '(' :: rest =>
      match readOpening flags rest with
      | none => none
      | some (.flags inner after) =>
        readGroup fuel inner { g with pieces := ⟨.empty, 0, false⟩ :: g.pieces } after
      | some (.group inner name content) =>
        let names := match name with
          | some name => name :: g.names
          | none => g.names
        if (match name with | some name => g.names.contains name | none => false) then none
        else
          match readGroup fuel inner { names := names } content with
          | some (nested, ')' :: after) =>
            readGroup fuel flags
              { g.push nested.pattern (nested.total + 1) with names := nested.names } after
          | _ => none
    | '[' :: rest =>
      match readClass flags fuel rest with
      | some (s, after) => readGroup fuel flags (g.pushSet s) after
      | none => none
    | '*' :: rest =>
      match g.repeated star 1 with
      | some g => readGroup fuel flags g (skipLazy rest)
      | none => none
    | '+' :: rest =>
      match g.repeated plus 1 with
      | some g => readGroup fuel flags g (skipLazy rest)
      | none => none
    | '?' :: rest =>
      match g.repeated optional 1 with
      | some g => readGroup fuel flags g (skipLazy rest)
      | none => none
    | '\x7b' :: rest =>
      match readBounds rest with
      | some (low, high, after) =>
        match g.repeated (between low high) (high.getD (low + 1)) with
        | some g => readGroup fuel flags g (skipLazy after)
        | none => none
      | none => none
    | '.' :: rest =>
      if flags.unicode then readGroup fuel flags (g.pushSet (dotSet flags)) rest else none
    | '^' :: rest =>
      readGroup fuel flags (g.push (.edge (if flags.multiLine then .lineStart else .textStart)) 1)
        rest
    | '$' :: rest =>
      readGroup fuel flags (g.push (.edge (if flags.multiLine then .lineEnd else .textEnd)) 1) rest
    | '\\' :: rest =>
      match readEscape flags rest with
      | some (.literal c, after) => readGroup fuel flags (g.pushSet (literalSet flags c)) after
      | some (.set s, after) => readGroup fuel flags (g.pushSet s) after
      | some (.edge e, after) => readGroup fuel flags (g.push (.edge e) 1) after
      | none => none
    | c :: rest => readGroup fuel flags (g.pushSet (literalSet flags c)) rest

/-- Reads a whole pattern; none when the text is not the written form of a pattern. -/
def ofChars? (cs : List Char) : Option Pattern :=
  match readGroup (2 * cs.length + 1) {} {} cs with
  | some (g, []) => if g.total ≤ sizeLimit then some g.pattern else none
  | _ => none

/-- Reads a whole pattern. -/
def ofText? (s : String) : Option Pattern :=
  ofChars? s.toList

end QualityGates.Pattern
