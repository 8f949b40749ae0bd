import QualityGates.Json.Cursor

/-!
# Reading quoted JSON strings

An escape with a code gives one UTF-16 unit. A leading surrogate has to be followed by an escape
with a trailing one, and the two together give one character.
-/

namespace QualityGates.Json

/-- The value of a hexadecimal digit. -/
def hexValue? (c : Char) : Option Nat :=
  if '0' ≤ c && c ≤ '9' then some (c.toNat - '0'.toNat)
  else if 'a' ≤ c && c ≤ 'f' then some (c.toNat - 'a'.toNat + 10)
  else if 'A' ≤ c && c ≤ 'F' then some (c.toNat - 'A'.toNat + 10)
  else none

/-- The number of bytes of a text. -/
def byteCount (cs : List Char) : Nat :=
  cs.foldl (fun n c => n + c.utf8Size) 0

/-- Reads the four digits of a unit. -/
def readUnit (c : Cursor) : Except Error (Nat × Cursor) :=
  match c.rest with
  | h1 :: h2 :: h3 :: h4 :: rest =>
    match hexValue? h1, hexValue? h2, hexValue? h3, hexValue? h4 with
    | some a, some b, some d, some e =>
      .ok (4096 * a + 256 * b + 16 * d + e, ⟨rest, ⟨c.position.line, c.position.column + 4⟩⟩)
    | _, _, _, _ => invalid c
  | _ => invalid c
where
  /-- Four bytes that are no digits are passed before the fault; fewer end the text. -/
  invalid (c : Cursor) : Except Error (Nat × Cursor) :=
    let size := byteCount c.rest
    if size < 4 then .error ⟨.endInString, c.position.afterBytes c.rest size⟩
    else .error ⟨.invalidEscape, c.position.afterBytes c.rest 4⟩

/-- The character with a code point below the surrogates or above them. -/
def charOfUnit (n : Nat) : Char :=
  Char.ofNat n

/-- Reads the trailing half of a surrogate pair after the leading one. -/
def readTrailing (leading : Nat) (c : Cursor) : Except Error (Char × Cursor) :=
  match c.rest with
  | [] => c.fail .endInString
  | '\\' :: 'u' :: _ =>
    match readUnit c.next.next with
    | .error e => .error e
    | .ok (trailing, after) =>
      if trailing < 0xDC00 || 0xDFFF < trailing then after.fail .loneSurrogate
      else .ok (Char.ofNat (0x10000 + 0x400 * (leading - 0xD800) + (trailing - 0xDC00)), after)
  | '\\' :: [] => c.next.fail .endInString
  | '\\' :: _ => c.next.failPeeked .unfinishedSurrogate
  | _ => c.failPeeked .unfinishedSurrogate

/-- Reads an escape after its backslash. -/
def readEscape (c : Cursor) : Except Error (Char × Cursor) :=
  match c.rest with
  | [] => c.fail .endInString
  | '"' :: _ => .ok ('"', c.next)
  | '\\' :: _ => .ok ('\\', c.next)
  | '/' :: _ => .ok ('/', c.next)
  | 'b' :: _ => .ok ('\x08', c.next)
  | 'f' :: _ => .ok ('\x0c', c.next)
  | 'n' :: _ => .ok ('\n', c.next)
  | 'r' :: _ => .ok ('\r', c.next)
  | 't' :: _ => .ok ('\t', c.next)
  | 'u' :: _ =>
    match readUnit c.next with
    | .error e => .error e
    | .ok (unit, after) =>
      if 0xDC00 ≤ unit && unit ≤ 0xDFFF then after.fail .loneSurrogate
      else if 0xD800 ≤ unit && unit ≤ 0xDBFF then readTrailing unit after
      else .ok (charOfUnit unit, after)
  | _ => c.failPeeked .invalidEscape

/-- Reads the rest of a string after its opening quotation mark; `read` holds the characters read
so far, last one first. -/
def readStringFrom : (fuel : Nat) → (read : List Char) → Cursor → Except Error (String × Cursor)
  | 0, _, c => c.fail .endInString
  | fuel + 1, read, c =>
    match c.rest with
    | [] => c.fail .endInString
    | '"' :: _ => .ok (String.ofList read.reverse, c.next)
    | '\\' :: _ =>
      match readEscape c.next with
      | .ok (d, after) => readStringFrom fuel (d :: read) after
      | .error e => .error e
    | d :: _ =>
      if d.toNat < 0x20 then c.failPeeked .controlCharacter
      else readStringFrom fuel (d :: read) c.next

/-- Reads a string after its opening quotation mark. -/
def readString (c : Cursor) : Except Error (String × Cursor) :=
  readStringFrom (c.rest.length + 1) [] c

/-- Moves past an ignored escape after its backslash; units are not paired. -/
def skipEscape (c : Cursor) : Except Error Cursor :=
  match c.rest with
  | [] => c.fail .endInString
  | 'u' :: _ => (readUnit c.next).map Prod.snd
  | d :: _ =>
    if "\"\\/bfnrt".toList.contains d then .ok c.next else c.failPeeked .invalidEscape

/-- Moves past the rest of an ignored string. -/
def skipStringFrom : (fuel : Nat) → Cursor → Except Error Cursor
  | 0, c => c.fail .endInString
  | fuel + 1, c =>
    match c.rest with
    | [] => c.fail .endInString
    | '"' :: _ => .ok c.next
    | '\\' :: _ =>
      match skipEscape c.next with
      | .ok after => skipStringFrom fuel after
      | .error e => .error e
    | d :: _ =>
      if d.toNat < 0x20 then c.fail .controlCharacter else skipStringFrom fuel c.next

/-- Moves past an ignored string after its opening quotation mark. -/
def skipString (c : Cursor) : Except Error Cursor :=
  skipStringFrom (c.rest.length + 1) c

end QualityGates.Json
