import QualityGates.Yaml.Shape

/-!
# Reading records from YAML

Readers of values with an expected shape. A fault names the path of the value that is at fault and
its place; a fault that has no place of its own is put down to the mapping around it. A section is a
record all of whose fields may be left out. Its unknown fields are passed over.
-/

namespace QualityGates.Yaml

/-- The way to a value from the top of a document. -/
inductive DataPath where
  | root
  | member (parent : DataPath) (name : Option String)
  | element (parent : DataPath) (index : Nat)
  deriving Repr, Inhabited

/-- The text of a path; a field whose name is not written out is a question mark. -/
def DataPath.text : DataPath → String
  | root => "."
  | member root name => name.getD "?"
  | member parent name => parent.text ++ "." ++ name.getD "?"
  | element parent index => parent.text ++ "[" ++ toString index ++ "]"

/-- Why a text does not give the expected record. -/
inductive Fault where
  /-- The text is not one YAML document. -/
  | malformed
  /-- A value is not as expected. -/
  | mismatch (text : String) (place : Option (String × Mark))
  deriving DecidableEq, Repr, Inhabited

/-- Puts a fault down to a value unless it has a place. -/
def Fault.at (path : DataPath) (mark : Mark) : Fault → Fault
  | mismatch text none => mismatch text (some (path.text, mark))
  | fault => fault

/-- The wording of a fault; there is none for a text that is not YAML. -/
def Fault.message? : Fault → Option String
  | malformed => none
  | mismatch text none => some text
  | mismatch text (some (path, mark)) =>
    let start := if path = "." then text else path ++ ": " ++ text
    if mark.line = 0 ∧ mark.column = 0 then some start
    else
      some (start ++ " at line " ++ toString (mark.line + 1) ++ " column " ++
        toString (mark.column + 1))

/-- A reader of one value of a document; what follows the value is left. -/
abbrev Reader (α : Type) := Document → DataPath → Events → Except Fault (α × Events)

/-- The fault of an event that is not `expected`. -/
def wrongEvent {α : Type} (path : DataPath) (mark : Mark) (event : Event) (expected : String) :
    Except Fault α :=
  let wrong (text : String) : Except Fault α := .error (.mismatch text (some (path.text, mark)))
  match event with
  | .scalar text tag style => wrong (wrongScalar text tag style expected)
  | .openSequence => wrong (wrongKind "sequence" expected)
  | .openMapping => wrong (wrongKind "map" expected)
  | _ => .error .malformed

/-- Reads a value that may be an alias. -/
def readFollowed {α : Type} (read : Mark → Event → Events → Except Fault (α × Events)) :
    Document → Events → Except Fault (α × Events) := fun d events =>
  match d.follow events with
  | ([], _) => .error .malformed
  | ((mark, event) :: rest, after) =>
    match read mark event rest with
    | .error fault => .error fault
    | .ok (value, left) => .ok (value, after.getD left)

/-- Reads the text of a scalar of any kind. -/
def readText (expected : String) : Reader String := fun d path events =>
  readFollowed (fun mark event rest =>
    match event with
    | .scalar text _ _ => .ok (text, rest)
    | _ => wrongEvent path mark event expected) d events

/-- Reads a float. -/
def readFloat : Reader Float := fun d path events =>
  readFollowed (fun mark event rest =>
    match event with
    | .scalar text tag style =>
      if style = .plain ∨ (style = .literal ∧ tag = some (standardTag "float")) then
        match floatOfText? text with
        | some x => .ok (x, rest)
        | none => wrongEvent path mark event "f64"
      else wrongEvent path mark event "f64"
    | _ => wrongEvent path mark event "f64") d events

/-- Whether a scalar stands for nothing where a value may be left out. -/
def isAbsent (text : String) (tag : Option String) (style : Style) : Except Fault Bool :=
  if style ≠ .plain then .ok false
  else
    match tag with
    | some tag =>
      if tag = standardTag "null" then
        if isNullText text then .ok true else .error (.mismatch (wrongValue text "null") none)
      else .ok false
    | none => .ok (text.isEmpty || isNullText text)

/-- Reads a value that may be left out. -/
def readOptional {α : Type} (read : Reader α) : Reader (Option α) := fun d path events =>
  let present : Except Fault (Option α × Events) :=
    match read d path events with
    | .error fault => .error fault
    | .ok (value, rest) => .ok (some value, rest)
  match d.follow events with
  | ([], _) => .error .malformed
  | ((_, .scalar text tag style) :: rest, after) =>
    match isAbsent text tag style with
    | .error fault => .error fault
    | .ok true => .ok (none, after.getD rest)
    | .ok false => present
  | ((_, .nothing) :: rest, _) => .ok (none, rest)
  | _ => present

/-- Whether an event is a collection that is left out. -/
def isEmptyCollection : Event → Bool
  | .nothing => true
  | .scalar text _ style => text.isEmpty && style == .plain
  | _ => false

/-- Reads the elements of a sequence up to its end. -/
def readElements {α : Type} (read : Reader α) (d : Document) (path : DataPath) :
    (fuel : Nat) → (index : Nat) → List α → Events → Except Fault (List α × Events)
  | 0, _, _, _ => .error .malformed
  | fuel + 1, index, elements, events =>
    match events with
    | [] => .error .malformed
    | (_, .closeSequence) :: rest => .ok (elements.reverse, rest)
    | _ =>
      match read d (.element path index) events with
      | .error fault => .error fault
      | .ok (element, rest) => readElements read d path fuel (index + 1) (element :: elements) rest

/-- Reads a sequence. -/
def readList {α : Type} (read : Reader α) : Reader (List α) := fun d path events =>
  readFollowed (fun mark event rest =>
    match event with
    | .openSequence =>
      (readElements read d path (rest.length + 1) 0 [] rest).mapError (Fault.at path mark)
    | _ =>
      if isEmptyCollection event then .ok ([], rest)
      else wrongEvent path mark event "a sequence") d events

/-- Passes over a value; `depth` collections are open. -/
def passValue : (depth : Nat) → Events → Except Fault Events
  | _, [] => .error .malformed
  | depth, (_, event) :: rest =>
    match event with
    | .openSequence => passValue (depth + 1) rest
    | .openMapping => passValue (depth + 1) rest
    | .closeSequence => if depth ≤ 1 then .ok rest else passValue (depth - 1) rest
    | .closeMapping => if depth ≤ 1 then .ok rest else passValue (depth - 1) rest
    | _ => if depth = 0 then .ok rest else passValue depth rest

/-- A record all of whose fields may be left out. -/
structure Section (α : Type) where
  /-- The name of the record in faults. -/
  name : String
  /-- The record without fields. -/
  start : α
  /-- Reads the value of a field into a record; none for an unknown field. -/
  field : String → Option (α → Reader α)

namespace Section

variable {α : Type}

/-- Reads the fields of a mapping up to its end; `seen` holds the names of the fields read. -/
def readFields (s : Section α) (d : Document) (path : DataPath) :
    (fuel : Nat) → (seen : List String) → α → Events → Except Fault (α × Events)
  | 0, _, _, _ => .error .malformed
  | fuel + 1, seen, record, events =>
    match events with
    | [] => .error .malformed
    | (_, .closeMapping) :: rest => .ok (record, rest)
    | (_, first) :: _ =>
      match readText "field identifier" d path events with
      | .error fault => .error fault
      | .ok (name, rest) =>
        match s.field name with
        | none =>
          match passValue 0 rest with
          | .error fault => .error fault
          | .ok rest => readFields s d path fuel seen record rest
        | some read =>
          if seen.contains name then
            .error (.mismatch ("duplicate field `" ++ name ++ "`") none)
          else
            let written := match first with
              | .scalar text _ _ => some text
              | _ => none
            match read record d (.member path written) rest with
            | .error fault => .error fault
            | .ok (record, rest) => readFields s d path fuel (name :: seen) record rest

/-- Reads a section. -/
def reader (s : Section α) : Reader α := fun d path events =>
  readFollowed (fun mark event rest =>
    match event with
    | .openMapping =>
      (s.readFields d path (rest.length + 1) [] s.start rest).mapError (Fault.at path mark)
    | _ =>
      if isEmptyCollection event then .ok (s.start, rest)
      else wrongEvent path mark event ("struct " ++ s.name)) d events

/-- Reads the section that a text holds. -/
def ofText (s : Section α) (text : String) : Except Fault α :=
  let d := Document.ofText text
  match s.reader d .root d.events with
  | .error fault => .error fault
  | .ok (record, _) => if d.whole then .ok record else .error .malformed

end Section
end QualityGates.Yaml
