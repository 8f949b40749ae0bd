import QualityGates.Xml.Entity

/-!
# Attributes

The attributes of a tag are read from left to right and only as far as needed: a fault behind the
attribute that was asked for goes unnoticed. A key may occur once among the attributes that are
read.
-/

namespace QualityGates.Xml

/-- An attribute as it was written. -/
structure Attribute where
  key : List Char
  value : List Char
  deriving DecidableEq, Repr, Inhabited

/-- What follows a blank-separated `=`, with its place. -/
structure Remainder where
  place : Nat
  rest : List Char

/-- Moves past blanks. -/
def Remainder.skip (r : Remainder) : Remainder :=
  ⟨r.place + byteCount (r.rest.takeWhile isSpace), r.rest.dropWhile isSpace⟩

/-- Moves past the `=` between a key and its value. -/
def Remainder.passEquals (r : Remainder) : Except Fault Remainder :=
  match r.rest with
  | [] => .error (.keyWithoutEquals r.place)
  | c :: rest =>
    if c = '=' then .ok ⟨r.place + 1, rest⟩ else .error (.keyWithoutEquals r.place)

/-- Reads a quoted value. -/
def Remainder.readValue (r : Remainder) : Except Fault (List Char × Remainder) :=
  match r.rest with
  | [] => .error (.missingValue r.place)
  | quote :: rest =>
    if quote = '"' ∨ quote = '\'' then
      let value := rest.takeWhile (fun c => c != quote)
      let place := r.place + 1 + byteCount value
      match rest.dropWhile (fun c => c != quote) with
      | [] => .error (.openValue place quote)
      | _ :: rest => .ok (value, ⟨place + 1, rest⟩)
    else .error (.unquotedValue r.place)

/-- Reads the next attribute; `seen` holds the keys that were read, with their places. -/
def nextAttribute (seen : List (List Char × Nat)) (r : Remainder) :
    Except Fault (Option (Attribute × Nat × Remainder)) :=
  let r := r.skip
  match r.rest with
  | [] => .ok none
  | first :: more =>
    let isKey (c : Char) : Bool := c != '=' && !isSpace c
    let key := first :: more.takeWhile isKey
    let behind : Remainder := ⟨r.place + byteCount key, more.dropWhile isKey⟩
    match behind.skip.passEquals with
    | .error fault => .error fault
    | .ok behind =>
      match seen.lookup key with
      | some previous => .error (.repeatedKey r.place previous)
      | none =>
        match behind.skip.readValue with
        | .error fault => .error fault
        | .ok (value, rest) => .ok (some (⟨key, value⟩, r.place, rest))

/-- Looks for an attribute among those that are still to be read. -/
def findAttribute (key : List Char) : (fuel : Nat) → (seen : List (List Char × Nat)) →
    Remainder → Except Fault (Option (List Char))
  | 0, _, _ => .ok none
  | fuel + 1, seen, r =>
    match nextAttribute seen r with
    | .error fault => .error fault
    | .ok none => .ok none
    | .ok (some (found, place, rest)) =>
      if found.key = key then .ok (some found.value)
      else findAttribute key fuel ((found.key, place) :: seen) rest

/-- The value of an attribute of a tag, with its entities resolved. -/
def Tag.attribute? (tag : Tag) (key : String) : Except Fault (Option String) :=
  let name := tag.name
  let start : Remainder := ⟨byteCount name, tag.content.drop name.length⟩
  match findAttribute key.toList (start.rest.length + 1) [] start with
  | .error fault => .error fault
  | .ok none => .ok none
  | .ok (some value) => (resolve value).map (fun cs => some (String.ofList cs))

end QualityGates.Xml
