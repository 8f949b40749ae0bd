import QualityGates.Json.Number
import QualityGates.Json.String

/-!
# Reading JSON values

One value with blanks around it. Brackets nest at most 127 deep. `Elements` and `Members` walk
through arrays and objects and leave the reading of what they hold to a function, so that untyped
values and records share them.
-/

namespace QualityGates.Json

/-- A reader of one thing at a place in the text. -/
abbrev Reader (α : Type) := Cursor → Except Error (α × Cursor)

/-- The number of brackets that may be open, plus one. -/
def depthLimit : Nat := 128

/-- Reads the letters of a literal name after the first one. -/
def readIdent : List Char → Cursor → Except Error Cursor
  | [], c => .ok c
  | expected :: more, c =>
    match c.rest with
    | [] => c.fail .endInValue
    | d :: _ => if d = expected then readIdent more c.next else c.failPeeked .expectedIdent

/-- Moves to the next element of an array or stands at its end; `first` tells whether none has been
read. -/
def nextElement (first : Bool) (c : Cursor) : Except Error (Bool × Cursor) :=
  let c := c.skipSpaces
  match c.rest with
  | [] => c.failPeeked .endInList
  | ']' :: _ => .ok (false, c)
  | d :: _ =>
    if first then .ok (true, c)
    else if d = ',' then
      let c := c.next.skipSpaces
      match c.rest with
      | [] => c.failPeeked .endInValue
      | ']' :: _ => c.failPeeked .trailingComma
      | _ => .ok (true, c)
    else c.failPeeked .expectedListEnd

/-- Moves to the next name of an object or stands at its end. -/
def nextName (first : Bool) (c : Cursor) : Except Error (Bool × Cursor) :=
  let c := c.skipSpaces
  match c.rest with
  | [] => c.failPeeked .endInObject
  | '\x7d' :: _ => .ok (false, c)
  | d :: _ =>
    if first then if d = '"' then .ok (true, c) else c.failPeeked .keyNotString
    else if d = ',' then
      let c := c.next.skipSpaces
      match c.rest with
      | [] => c.failPeeked .endInValue
      | '"' :: _ => .ok (true, c)
      | '\x7d' :: _ => c.failPeeked .trailingComma
      | _ => c.failPeeked .keyNotString
    else c.failPeeked .expectedObjectEnd

/-- Reads the colon between a name and its value. -/
def readColon (c : Cursor) : Except Error Cursor :=
  let c := c.skipSpaces
  match c.rest with
  | [] => c.failPeeked .endInObject
  | ':' :: _ => .ok c.next
  | _ => c.failPeeked .expectedColon

/-- Reads the elements of an array up to its closing bracket. -/
def readElements {α : Type} (element : Reader α) :
    (fuel : Nat) → (first : Bool) → (read : List α) → Reader (List α)
  | 0, _, _, c => c.failPeeked .endInList
  | fuel + 1, first, read, c =>
    match nextElement first c with
    | .error e => .error e
    | .ok (false, c) => .ok (read.reverse, c)
    | .ok (true, c) =>
      match element c with
      | .error e => .error e
      | .ok (value, c) => readElements element fuel false (value :: read) c

/-- Reads the members of an object up to its closing brace, each as it is written. -/
def readMembers {α : Type} (element : Reader α) :
    (fuel : Nat) → (first : Bool) → (read : List (String × α)) → Reader (List (String × α))
  | 0, _, _, c => c.failPeeked .endInObject
  | fuel + 1, first, read, c =>
    match nextName first c with
    | .error e => .error e
    | .ok (false, c) => .ok (read.reverse, c)
    | .ok (true, c) =>
      match readString c.next with
      | .error e => .error e
      | .ok (name, c) =>
        match readColon c with
        | .error e => .error e
        | .ok c =>
          match element c with
          | .error e => .error e
          | .ok (value, c) => readMembers element fuel false ((name, value) :: read) c

/-- Reads a value inside at most `depth - 1` open brackets. -/
def readValue : (depth : Nat) → Reader Json
  | 0, c => c.failPeeked .tooDeep
  | depth + 1, c =>
    let c := c.skipSpaces
    match c.rest with
    | [] => c.failPeeked .endInValue
    | 'n' :: _ => (readIdent "ull".toList c.next).map (fun c => (null, c))
    | 't' :: _ => (readIdent "rue".toList c.next).map (fun c => (bool true, c))
    | 'f' :: _ => (readIdent "alse".toList c.next).map (fun c => (bool false, c))
    | '"' :: _ => (readString c.next).map (fun (s, c) => (string s, c))
    | '[' :: _ =>
      if depth = 0 then c.failPeeked .tooDeep
      else
        (readElements (readValue depth) (c.rest.length + 1) true [] c.next).map
          (fun (elements, c) => (array elements, c.next))
    | '\x7b' :: _ =>
      if depth = 0 then c.failPeeked .tooDeep
      else
        (readMembers (readValue depth) (c.rest.length + 1) true [] c.next).map
          (fun (members, c) => (object (mergeMembers members), c.next))
    | d :: _ =>
      if d = '-' || Number.isDigit d then (readNumber c).map (fun (n, c) => (number n, c))
      else c.failPeeked .expectedValue

/-- Reads with `reader` what stands alone in a text. -/
def readAll {α : Type} (reader : Reader α) (s : String) : Except Error α :=
  match reader (Cursor.start s.toList) with
  | .error e => .error e
  | .ok (value, c) =>
    let c := c.skipSpaces
    if c.rest.isEmpty then .ok value else c.failPeeked .trailingCharacters

/-- Reads the value that a text holds. -/
def ofText (s : String) : Except Error Json :=
  readAll (readValue depthLimit) s

end QualityGates.Json
