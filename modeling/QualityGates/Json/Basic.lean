import QualityGates.Number.FloatText

/-!
# JSON values

Numbers keep the form in which they were written: a word, a negative integer or a float. Members
of an object keep the order in which their names first occur, and a repeated name takes the last
value.
-/

namespace QualityGates

/-- A JSON number by the form of its literal. -/
inductive JsonNumber where
  | word (n : UInt64)
  | negative (n : Int64)
  | float (x : Float)

/-- A JSON value. -/
inductive Json where
  | null
  | bool (b : Bool)
  | number (n : JsonNumber)
  | string (s : String)
  | array (elements : List Json)
  | object (members : List (String × Json))
  deriving Inhabited

namespace JsonNumber

/-- The number as a float, rounded to nearest. -/
def toFloat : JsonNumber → Float
  | word n => n.toFloat
  | negative n => n.toFloat
  | float x => x

/-- The text of a number; a float without a finite value has none and is written as `null`. -/
def text : JsonNumber → String
  | word n => Number.natText n.toNat
  | negative n =>
    let value := n.toInt
    Number.signText (decide (value < 0)) ++ Number.natText value.natAbs
  | float x => (Number.reportText? x).getD "null"

end JsonNumber

namespace Json

/-- Sets a member: a known name keeps its place and takes the new value. -/
def setMember {α : Type} (name : String) (value : α) : List (String × α) → List (String × α)
  | [] => [(name, value)]
  | (other, old) :: rest =>
    if other = name then (name, value) :: rest else (other, old) :: setMember name value rest

/-- The members of an object, given as they are written. -/
def mergeMembers {α : Type} (written : List (String × α)) : List (String × α) :=
  written.foldl (fun known item => setMember item.1 item.2 known) []

/-- The value of a member of an object. -/
def member? (name : String) : Json → Option Json
  | object members => members.lookup name
  | _ => none

/-- The text of a string value. -/
def string? : Json → Option String
  | string s => some s
  | _ => none

/-- Whether a value is `null`. -/
def isNull : Json → Bool
  | null => true
  | _ => false

end Json
end QualityGates
