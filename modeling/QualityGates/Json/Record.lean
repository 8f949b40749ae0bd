import QualityGates.Json.Reader
import QualityGates.Text.Quoted

/-!
# Reading records from JSON

Readers of values with an expected shape. A value of another shape is named in the fault together
with what was expected. A record is read from an object, whose unknown members are passed over,
or from an array with one element per field.
-/

namespace QualityGates.Json

/-- What a number is called in a fault. -/
def numberKind : JsonNumber → String
  | .word n => "integer `" ++ (JsonNumber.word n).text ++ "`"
  | .negative n => "integer `" ++ (JsonNumber.negative n).text ++ "`"
  | .float x => "floating point `" ++ (JsonNumber.float x).text ++ "`"

/-- The wording of a wrong shape. -/
def wrongShape (found expected : String) : String :=
  "invalid type: " ++ found ++ ", expected " ++ expected

/-- The fault for a value that is not `expected`; scalar values are passed before the fault. -/
def unexpected {α : Type} (expected : String) (c : Cursor) : Except Error α :=
  let wrong (found : String) (c : Cursor) : Except Error α :=
    c.fail (.mismatch (wrongShape found expected))
  match c.rest with
  | 'n' :: _ => (readIdent "ull".toList c.next).bind (wrong "null")
  | 't' :: _ => (readIdent "rue".toList c.next).bind (wrong "boolean `true`")
  | 'f' :: _ => (readIdent "alse".toList c.next).bind (wrong "boolean `false`")
  | '"' :: _ => (readString c.next).bind (fun (s, c) => wrong ("string " ++ Text.shown s) c)
  | '[' :: _ => wrong "sequence" c
  | '\x7b' :: _ => wrong "map" c
  | [] => c.failPeeked .expectedValue
  | d :: _ =>
    if d = '-' || Number.isDigit d then (readNumber c).bind (fun (n, c) => wrong (numberKind n) c)
    else c.failPeeked .expectedValue

/-- Moves to the first character of a value. -/
def toValue (c : Cursor) : Except Error Cursor :=
  let c := c.skipSpaces
  if c.rest.isEmpty then c.failPeeked .endInValue else .ok c

/-- Reads a truth value. -/
def readBool : Reader Bool := fun c => do
  let c ← toValue c
  match c.rest with
  | 't' :: _ => return (true, ← readIdent "rue".toList c.next)
  | 'f' :: _ => return (false, ← readIdent "alse".toList c.next)
  | _ => unexpected "a boolean" c

/-- Whether a number starts here. -/
def startsNumber (c : Cursor) : Bool :=
  match c.rest with
  | d :: _ => d == '-' || Number.isDigit d
  | [] => false

/-- Reads a count. -/
def readCount : Reader Nat := fun c => do
  let c ← toValue c
  if startsNumber c then
    let (n, c) ← readNumber c
    match n with
    | .word n => return (n.toNat, c)
    | .negative _ =>
      c.fail (.mismatch ("invalid value: " ++ numberKind n ++ ", expected usize"))
    | .float _ => c.fail (.mismatch (wrongShape (numberKind n) "usize"))
  else unexpected "usize" c

/-- Reads a number as a float. -/
def readFloat : Reader Float := fun c => do
  let c ← toValue c
  if startsNumber c then
    let (n, c) ← readNumber c
    return (n.toFloat, c)
  else unexpected "f64" c

/-- Reads a string that is called `expected` in faults. -/
def readText (expected : String) : Reader String := fun c => do
  let c ← toValue c
  match c.rest with
  | '"' :: _ => readString c.next
  | _ => unexpected expected c

/-- Reads a value or `null`. -/
def readOptional {α : Type} (reader : Reader α) : Reader (Option α) := fun c => do
  let c := c.skipSpaces
  match c.rest with
  | 'n' :: _ => return (none, ← readIdent "ull".toList c.next)
  | _ =>
    let (value, c) ← reader c
    return (some value, c)

/-- Ends an array whose expected elements have been read. -/
def endArray (c : Cursor) : Except Error Cursor × Cursor :=
  let c := c.skipSpaces
  match c.rest with
  | [] => (c.failPeeked .endInList, c)
  | ']' :: _ => (.ok c.next, c.next)
  | ',' :: _ =>
    let c := c.next.skipSpaces
    match c.rest with
    | ']' :: _ => (c.failPeeked .trailingComma, c)
    | _ => (c.failPeeked .trailingCharacters, c)
  | _ => (c.failPeeked .trailingCharacters, c)

/-- Ends an object whose members have been read. -/
def endObject (c : Cursor) : Except Error Cursor × Cursor :=
  let c := c.skipSpaces
  match c.rest with
  | [] => (c.failPeeked .endInObject, c)
  | '\x7d' :: _ => (.ok c.next, c.next)
  | ',' :: _ => (c.failPeeked .trailingComma, c)
  | _ => (c.failPeeked .trailingCharacters, c)

/-- Reads a list of values inside at most `depth - 1` open brackets. -/
def readList {α : Type} (depth : Nat) (element : Nat → Reader α) : Reader (List α) := fun c => do
  let c ← toValue c
  match c.rest with
  | '[' :: _ =>
    if depth ≤ 1 then c.failPeeked .tooDeep
    else
      let (elements, c) ← readElements (element (depth - 1)) (c.rest.length + 1) true [] c.next
      return (elements, c.next)
  | _ => unexpected "a sequence" c

/-- A bracket that is open around an ignored value. -/
inductive Bracket where
  | list
  | object
  deriving DecidableEq

/-- Moves past an ignored number, whatever its size. -/
def skipNumber (c : Cursor) : Except Error Cursor := do
  let c := match c.rest with
    | '-' :: _ => c.next
    | _ => c
  let c ← match c.rest with
    | [] => c.fail .invalidNumber
    | d :: rest =>
      if d = '0' then
        match rest with
        | e :: _ => if Number.isDigit e then c.next.failPeeked .invalidNumber else .ok c.next
        | [] => .ok c.next
      else if Number.isDigit d then .ok (skipDigits c.position c.rest)
      else c.failPeeked .invalidNumber
  let c ← match c.rest with
    | '.' :: _ =>
      let c := c.next
      match c.rest with
      | [] => c.fail .invalidNumber
      | d :: _ =>
        if Number.isDigit d then .ok (skipDigits c.position c.rest)
        else c.failPeeked .invalidNumber
    | _ => .ok c
  match c.rest with
  | d :: _ =>
    if d = 'e' || d = 'E' then
      let c := c.next
      let c := match c.rest with
        | '+' :: _ => c.next
        | '-' :: _ => c.next
        | _ => c
      match c.rest with
      | [] => c.fail .invalidNumber
      | d :: _ =>
        if Number.isDigit d then .ok (skipDigits c.position c.rest)
        else c.failPeeked .invalidNumber
    else .ok c
  | [] => .ok c

/-- Goes on behind an ignored value inside open brackets: closes the brackets that end here and
tells whether another value follows. -/
def skipBehind : (fuel : Nat) → (comma : Bool) → List Bracket → Cursor →
    Except Error (List Bracket × Cursor)
  | 0, _, open_, c => .ok (open_, c)
  | _, _, [], c => .ok ([], c)
  | fuel + 1, comma, bracket :: outer, c =>
    let c := c.skipSpaces
    match c.rest, bracket with
    | [], .list => c.failPeeked .endInList
    | [], .object => c.failPeeked .endInObject
    | ']' :: _, .list => skipBehind fuel true outer c.next
    | '\x7d' :: _, .object => skipBehind fuel true outer c.next
    | d :: _, _ =>
      if comma then
        if d = ',' then .ok (bracket :: outer, c.next)
        else c.failPeeked (if bracket = .list then .expectedListEnd else .expectedObjectEnd)
      else .ok (bracket :: outer, c)

/-- Moves past the name in front of an ignored member. -/
def skipName (c : Cursor) : Except Error Cursor := do
  let c := c.skipSpaces
  match c.rest with
  | [] => c.failPeeked .endInObject
  | '"' :: _ =>
    let c := (← skipString c.next).skipSpaces
    match c.rest with
    | [] => c.failPeeked .endInObject
    | ':' :: _ => return c.next
    | _ => c.failPeeked .expectedColon
  | _ => c.failPeeked .keyNotString

/-- Moves past an ignored value inside open brackets, however deep it nests. -/
def skipInside : (fuel : Nat) → List Bracket → Cursor → Except Error Cursor
  | 0, _, c => c.failPeeked .endInValue
  | fuel + 1, open_, c => do
    let c ← toValue c
    let size := c.rest.length + 1
    let (open_, c) ← match c.rest with
      | 'n' :: _ => skipBehind size true open_ (← readIdent "ull".toList c.next)
      | 't' :: _ => skipBehind size true open_ (← readIdent "rue".toList c.next)
      | 'f' :: _ => skipBehind size true open_ (← readIdent "alse".toList c.next)
      | '"' :: _ => skipBehind size true open_ (← skipString c.next)
      | '[' :: _ => skipBehind size false (.list :: open_) c.next
      | '\x7b' :: _ => skipBehind size false (.object :: open_) c.next
      | _ =>
        if startsNumber c then skipBehind size true open_ (← skipNumber c)
        else c.failPeeked .expectedValue
    match open_ with
    | [] => return c
    | .list :: _ => skipInside fuel open_ c
    | .object :: _ => skipInside fuel open_ (← skipName c)

/-- Moves past an ignored value. -/
def skipValue (c : Cursor) : Except Error Cursor :=
  skipInside (c.rest.length + 1) [] c

/-! ## Records -/

/-- The parts of a record: the fields read so far, how each field is read, and the record that they
make. -/
structure RecordShape (σ α : Type) where
  /-- The name of the record in faults. -/
  name : String
  /-- The names of the fields in the order of the array form. -/
  fields : List String
  /-- Reads the value of a field. -/
  read : String → σ → Reader σ
  /-- Whether a field has been read. -/
  has : String → σ → Bool
  /-- No field. -/
  start : σ
  /-- Whether a field may be left out. -/
  mayLack : String → Bool
  /-- The record, once every field that may not be left out has been read. -/
  make : σ → Option α

/-- The end of the walk through the fields: a fault that has its place, one that is placed where
reading stops, or the fields. -/
inductive Walk (σ : Type) where
  | failed (e : Error)
  | refused (text : String) (c : Cursor)
  | done (fields : σ) (c : Cursor)

namespace RecordShape

variable {σ α : Type}

/-- Reads the members of an object into a record. -/
def walkObject (shape : RecordShape σ α) :
    (fuel : Nat) → (first : Bool) → σ → Cursor → Walk σ
  | 0, _, fields, c => .done fields c
  | fuel + 1, first, fields, c =>
    match nextName first c with
    | .error e => .failed e
    | .ok (false, c) => .done fields c
    | .ok (true, c) =>
      match readString c.next with
      | .error e => .failed e
      | .ok (name, c) =>
        if shape.fields.contains name then
          if shape.has name fields then .refused ("duplicate field `" ++ name ++ "`") c
          else
            match (readColon c).bind (shape.read name fields) with
            | .error e => .failed e
            | .ok (fields, c) => walkObject shape fuel false fields c
        else
          match (readColon c).bind skipValue with
          | .error e => .failed e
          | .ok c => walkObject shape fuel false fields c

/-- Reads the elements of an array into a record, from the field with number `index`. -/
def walkArray (shape : RecordShape σ α) (index : Nat) : List String → σ → Cursor → Walk σ
  | [], fields, c => .done fields c
  | name :: more, fields, c =>
    match nextElement (index = 0) c with
    | .error e => .failed e
    | .ok (false, c) =>
      if shape.mayLack name then walkArray shape (index + 1) more fields c
      else
        .refused
          ("invalid length " ++ toString index ++ ", expected struct " ++ shape.name ++ " with " ++
            toString shape.fields.length ++ " elements") c
    | .ok (true, c) =>
      match shape.read name fields c with
      | .error e => .failed e
      | .ok (fields, c) => walkArray shape (index + 1) more fields c

/-- The fault for the first field that is lacking. -/
def lacking (shape : RecordShape σ α) (fields : σ) : String :=
  match shape.fields.find? (fun name => !shape.has name fields && !shape.mayLack name) with
  | some name => "missing field `" ++ name ++ "`"
  | none => "missing field"

/-- Closes the bracket after a walk and makes the record. -/
def close (shape : RecordShape σ α) (finish : Cursor → Except Error Cursor × Cursor) :
    Walk σ → Except Error (α × Cursor)
  | .failed e => .error e
  | .refused text c => (finish c).2.fail (.mismatch text)
  | .done fields c =>
    match shape.make fields with
    | none => (finish c).2.fail (.mismatch (shape.lacking fields))
    | some record => (finish c).1.map (fun c => (record, c))

/-- Reads a record inside at most `depth - 1` open brackets. -/
def reader (shape : RecordShape σ α) (depth : Nat) : Reader α := fun c => do
  let c ← toValue c
  match c.rest with
  | '[' :: _ =>
    if depth ≤ 1 then c.failPeeked .tooDeep
    else shape.close endArray (shape.walkArray 0 shape.fields shape.start c.next)
  | '\x7b' :: _ =>
    if depth ≤ 1 then c.failPeeked .tooDeep
    else shape.close endObject (shape.walkObject (c.rest.length + 1) true shape.start c.next)
  | _ => unexpected ("struct " ++ shape.name) c

end RecordShape

/-! ## Choices -/

/-- The wording for a name that is none of the choices. -/
def unknownVariant (name : String) (choices : List String) : String :=
  let listed := match choices with
    | [a, b] => "`" ++ a ++ "` or `" ++ b ++ "`"
    | _ => "one of " ++ String.intercalate ", " (choices.map (fun s => "`" ++ s ++ "`"))
  "unknown variant `" ++ name ++ "`, expected " ++ listed

/-- Reads the name of a choice. -/
def readChoiceName {α : Type} (choices : List (String × α)) : Reader α := fun c => do
  let (name, c) ← readText "variant identifier" c
  match choices.lookup name with
  | some choice => return (choice, c)
  | none => c.fail (.mismatch (unknownVariant name (choices.map Prod.fst)))

/-- Reads `null`. -/
def readNull : Reader Unit := fun c => do
  let c ← toValue c
  match c.rest with
  | 'n' :: _ => return ((), ← readIdent "ull".toList c.next)
  | _ => unexpected "unit" c

/-- Reads one of several names, alone or as the only member of an object whose value is `null`. -/
def readChoice {α : Type} (depth : Nat) (choices : List (String × α)) : Reader α := fun c => do
  let c := c.skipSpaces
  match c.rest with
  | [] => c.failPeeked .endInValue
  | '"' :: _ => readChoiceName choices c
  | '\x7b' :: _ =>
    if depth ≤ 1 then c.failPeeked .tooDeep
    else
      let (choice, c) ← readChoiceName choices c.next
      let (_, c) ← readNull (← readColon c)
      let c := c.skipSpaces
      match c.rest with
      | '\x7d' :: _ => return (choice, c.next)
      | [] => c.fail .endInObject
      | _ => c.fail .expectedValue
  | _ => c.failPeeked .expectedValue

end QualityGates.Json
