import QualityGates.Yaml.Scalar

/-!
# Anchors, tags and directives

The parts of a YAML text that say something about a node or about the whole document.
-/

namespace QualityGates.Yaml

/-- Reads the name after `&` or `*`; only blanks and a few indicators may follow it. -/
def readAnchorName (c : Cursor) : Option (String × Cursor) :=
  let c := c.skip
  let name := c.rest.takeWhile isNameChar
  let behind := c.skipWhile isNameChar
  let closed :=
    match behind.rest with
    | [] => true
    | d :: _ => isBlankOrEnd (some d) || "?:,]\x7d%@\x60".toList.contains d
  if !name.isEmpty && closed then some (String.ofList name, behind) else none

/-- A character of a tag; inside angle brackets some more are taken. -/
def isTagChar (bracketed : Bool) (c : Char) : Bool :=
  isNameChar c || ";/?:@&=+$.%!~*'()".toList.contains c ||
    (bracketed && (c == ',' || c == '[' || c == ']'))

/-- Reads the byte that is written as a percent sign and two digits. -/
def readOctet (c : Cursor) : Option (Nat × Cursor) :=
  if c.has 0 '%' then
    match c.rest.drop 1 with
    | high :: low :: _ =>
      match hexValue? high, hexValue? low with
      | some h, some l => some (16 * h + l, c.skipMany 3)
      | _, _ => none
    | _ => none
  else none

/-- The number of bytes of a character that starts with a byte. -/
def octetCount? (first : Nat) : Option Nat :=
  if first < 0x80 then some 1
  else if 0xC0 ≤ first ∧ first < 0xE0 then some 2
  else if 0xE0 ≤ first ∧ first < 0xF0 then some 3
  else if 0xF0 ≤ first ∧ first < 0xF8 then some 4
  else none

/-- Reads the bytes of a character after its first one. -/
def readTrailing : (n : Nat) → (code : Nat) → Cursor → Option (Nat × Cursor)
  | 0, code, c => some (code, c)
  | n + 1, code, c =>
    match readOctet c with
    | some (octet, c) =>
      if 0x80 ≤ octet ∧ octet < 0xC0 then readTrailing n (64 * code + (octet - 0x80)) c else none
    | none => none

/-- Reads a character that is written in percent signs. -/
def readPercent (c : Cursor) : Option (Char × Cursor) :=
  match readOctet c with
  | none => none
  | some (first, c) =>
    match octetCount? first with
    | none => none
    | some n =>
      let lead := if n = 1 then first else first % Nat.pow 2 (7 - n)
      (readTrailing (n - 1) lead c).map (fun (code, c) => (Char.ofNat code, c))

/-- Reads the characters of a tag. -/
def readTagChars (bracketed : Bool) :
    (fuel : Nat) → List Char → Cursor → Option (List Char × Cursor)
  | 0, text, c => some (text.reverse, c)
  | fuel + 1, text, c =>
    match c.rest with
    | [] => some (text.reverse, c)
    | d :: _ =>
      if d = '%' then
        match readPercent c with
        | some (e, c) => readTagChars bracketed fuel (e :: text) c
        | none => none
      else if isTagChar bracketed d then readTagChars bracketed fuel (d :: text) c.skip
      else some (text.reverse, c)

/-- Reads a tag handle: an exclamation mark, and perhaps a name and another one. -/
def readHandle (c : Cursor) : Option (List Char × Cursor) :=
  if c.has 0 '!' then
    let c := c.skip
    let name := c.rest.takeWhile isNameChar
    let c := c.skipWhile isNameChar
    if c.has 0 '!' then some ('!' :: (name ++ ['!']), c.skip) else some ('!' :: name, c)
  else none

/-- Whether a text is a whole handle rather than the start of a tag. -/
def isWholeHandle (handle : List Char) : Bool :=
  1 < handle.length && handle.getLast? == some '!'

/-- Reads a tag without what follows it. -/
def readTagBody (c : Cursor) : Option (Token × Cursor) :=
  if c.has 1 '<' then
    match readTagChars true (c.rest.length + 1) [] (c.skipMany 2) with
    | some (suffix, c) =>
      if !suffix.isEmpty && c.has 0 '>' then some (.tag "" (String.ofList suffix), c.skip)
      else none
    | none => none
  else
    match readHandle c with
    | none => none
    | some (handle, c) =>
      match readTagChars false (c.rest.length + 1) [] c with
      | none => none
      | some (suffix, c) =>
        if isWholeHandle handle then
          if suffix.isEmpty then none
          else some (.tag (String.ofList handle) (String.ofList suffix), c)
        else
          let suffix := handle.drop 1 ++ suffix
          if suffix.isEmpty then some (.tag "" "!", c)
          else some (.tag "!" (String.ofList suffix), c)

/-- Reads a tag; a blank must follow it, or a comma inside brackets. -/
def readTag (brackets : Bool) (c : Cursor) : Option (Token × Cursor) :=
  match readTagBody c with
  | none => none
  | some (token, c) =>
    if isBlankOrEnd (c.peek? 0) || (brackets && c.has 0 ',') then some (token, c) else none

/-- Reads a number of at most nine digits. -/
def readVersionNumber (c : Cursor) : Option (Nat × Cursor) :=
  let digits := c.rest.takeWhile Char.isDigit
  if digits.isEmpty || 9 < digits.length then none
  else some (digits.foldl (fun n d => 10 * n + (d.toNat - '0'.toNat)) 0, c.skipWhile Char.isDigit)

/-- Reads the value of a version directive. -/
def readVersion (c : Cursor) : Option (Token × Cursor) :=
  match readVersionNumber (c.skipWhile isBlank) with
  | none => none
  | some (major, c) =>
    if c.has 0 '.' then
      (readVersionNumber c.skip).map (fun (minor, c) => (.version major minor, c))
    else none

/-- Reads the value of a tag directive. -/
def readTagDirective (c : Cursor) : Option (Token × Cursor) :=
  match readHandle (c.skipWhile isBlank) with
  | none => none
  | some (handle, c) =>
    if handle ≠ ['!'] ∧ !isWholeHandle handle then none
    else
      match c.peek? 0 with
      | some d =>
        if isBlank d then
          match readTagChars true (c.rest.length + 1) [] (c.skipWhile isBlank) with
          | some (start, c) =>
            if !start.isEmpty && isBlankOrEnd (c.peek? 0) then
              some (.tagHandle (String.ofList handle) (String.ofList start), c)
            else none
          | none => none
        else none
      | none => none

/-- Reads a directive with the line that it stands on. -/
def readDirective (c : Cursor) : Option (Token × Cursor) :=
  let c := c.skip
  let name := c.rest.takeWhile isNameChar
  let behind := c.skipWhile isNameChar
  if !isBlankOrEnd (behind.peek? 0) then none
  else
    let value :=
      if name = "YAML".toList then readVersion behind
      else if name = "TAG".toList then readTagDirective behind
      else none
    match value with
    | some (token, c) => c.finishLine.map (fun c => (token, c))
    | none => none

end QualityGates.Yaml
