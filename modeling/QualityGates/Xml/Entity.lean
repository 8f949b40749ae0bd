import QualityGates.Xml.Basic

/-!
# Entities

In texts and attribute values an entity stands for a character: by name for the five characters
with a meaning in markup, or by number.
-/

namespace QualityGates.Xml

/-- The character of a named entity. -/
def namedEntity? (name : List Char) : Option Char :=
  match String.ofList name with
  | "lt" => some '<'
  | "gt" => some '>'
  | "amp" => some '&'
  | "apos" => some '\''
  | "quot" => some '"'
  | _ => none

/-- The value of a digit in a base of at most sixteen. -/
def digitIn? (base : Nat) (c : Char) : Option Nat :=
  let value :=
    if '0' ≤ c && c ≤ '9' then c.toNat - '0'.toNat
    else if 'a' ≤ c && c ≤ 'f' then c.toNat - 'a'.toNat + 10
    else if 'A' ≤ c && c ≤ 'F' then c.toNat - 'A'.toNat + 10
    else base
  if value < base then some value else none

/-- Goes on reading the digits of a number below `2 ^ 32`. -/
def readDigits (base : Nat) (value : Nat) : List Char → Except CharFault Nat
  | [] => .ok value
  | c :: rest =>
    match digitIn? base c with
    | none => .error .notDigit
    | some digit =>
      let next := base * value + digit
      if next < Nat.pow 2 32 then readDigits base next rest else .error .tooLarge

/-- Reads a number in a base. -/
def readCode (base : Nat) : List Char → Except CharFault Nat
  | [] => .error .noDigits
  | '+' :: _ => .error .sign
  | '-' :: _ => .error .sign
  | cs => readDigits base 0 cs

/-- The character with a code point. -/
def charOfCode (n : Nat) : Except CharFault Char :=
  if n = 0 then .error .forbidden
  else if h : n.isValidChar then .ok (Char.ofNatAux n h)
  else .error (.notCodePoint n)

/-- The character of a numbered entity, given what follows the `#`. -/
def numberedEntity : List Char → Except CharFault Char
  | 'x' :: digits => (readCode 16 digits).bind charOfCode
  | digits => (readCode 10 digits).bind charOfCode

/-- The character of the entity that stands between the places `first` and `last`. -/
def entityChar (first last : Nat) (name : List Char) : Except Fault Char :=
  match name with
  | '#' :: number => (numberedEntity number).mapError .badCharacter
  | _ =>
    match namedEntity? name with
    | some c => .ok c
    | none => .error (.unknownEntity first last (String.ofList name))

/-- Resolves the entities of a text that starts at `place` and ends at `finish`; `pending` is what
has been read of an entity, with the place of its `&`. -/
def resolveFrom (finish place : Nat) (pending : Option (Nat × List Char)) :
    List Char → Except Fault (List Char)
  | [] =>
    match pending with
    | none => .ok []
    | some (start, _) => .error (.openEntity start finish)
  | c :: rest =>
    let next := place + c.utf8Size
    match pending with
    | none =>
      if c = '&' then resolveFrom finish next (some (place, [])) rest
      else (resolveFrom finish next none rest).map (c :: ·)
    | some (start, name) =>
      if c = '&' then .error (.openEntity start finish)
      else if c = ';' then
        match entityChar (start + 1) place name with
        | .error fault => .error fault
        | .ok d => (resolveFrom finish next none rest).map (d :: ·)
      else resolveFrom finish next (some (start, name ++ [c])) rest

/-- Puts characters in the place of the entities of a text. -/
def resolve (cs : List Char) : Except Fault (List Char) :=
  resolveFrom (byteCount cs) 0 none cs

end QualityGates.Xml
