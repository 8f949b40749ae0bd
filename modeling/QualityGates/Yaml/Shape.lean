import QualityGates.Number.FloatText
import QualityGates.Number.ReadFloat
import QualityGates.Text.Quoted
import QualityGates.Yaml.Document

/-!
# What YAML scalars stand for

A plain scalar stands for nothing, a truth value, an integer, a float or a text, as its characters
say; a tag can ask for one of these, and a quoted scalar is a text. A value of another kind than the
expected one is named in the fault.
-/

namespace QualityGates.Yaml

open Number (readFloat isDigit)

/-- Whether a text is a name of nothing. -/
def isNullText (s : String) : Bool :=
  s == "null" || s == "Null" || s == "NULL" || s == "~"

/-- Reads a name of a truth value. -/
def boolOfText? (s : String) : Option Bool :=
  if s == "true" || s == "True" || s == "TRUE" then some true
  else if s == "false" || s == "False" || s == "FALSE" then some false
  else none

/-- A text without the sign at its start. -/
def dropSign : List Char → List Char
  | '+' :: rest => rest
  | '-' :: rest => rest
  | cs => cs

/-- Whether a text starts with a sign. -/
def isSigned (cs : List Char) : Bool :=
  cs.head? == some '+' || cs.head? == some '-'

/-- Whether a text is a run of digits that starts with a needless zero. -/
def isPadded (cs : List Char) : Bool :=
  match dropSign cs with
  | '0' :: d :: rest => (d :: rest).all isDigit
  | _ => false

/-- Reads a float: a decimal literal with a finite value, or an infinity or NaN with a point in
front of its name. -/
def floatOfText? (s : String) : Option Float :=
  let cs := s.toList
  let positive := match cs with
    | '+' :: rest => rest
    | _ => cs
  if cs.head? == some '+' && isSigned positive then none
  else
    let name := String.ofList positive
    if name == ".inf" || name == ".Inf" || name == ".INF" then some (1.0 / 0.0)
    else if s == "-.inf" || s == "-.Inf" || s == "-.INF" then some (-1.0 / 0.0)
    else if s == ".nan" || s == ".NaN" || s == ".NAN" then some (0.0 / 0.0)
    else
      match readFloat positive with
      | some x => if x.isFinite then some x else none
      | none => none

/-- Reads the digits of a number in a base. -/
def readBase (base : Nat) (cs : List Char) : Option Nat :=
  if cs.isEmpty then none
  else
    match cs.mapM hexValue? with
    | some values =>
      if values.all (· < base) then some (values.foldl (fun n d => base * n + d) 0) else none
    | none => none

/-- The base that a letter after a zero stands for. -/
def baseOfLetter? (c : Char) : Option Nat :=
  match c with
  | 'x' => some 16
  | 'o' => some 8
  | 'b' => some 2
  | _ => none

/-- Reads an integer without a minus sign below `limit`. -/
def readPositive (limit : Nat) (cs : List Char) : Option Nat :=
  let digits := match cs with
    | '+' :: rest => rest
    | _ => cs
  let below (n : Option Nat) : Option Nat := n.filter (· < limit)
  let based := match digits with
    | '0' :: letter :: rest =>
      match baseOfLetter? letter with
      | some base => below (readBase base rest)
      | none => none
    | _ => none
  match based with
  | some n => some n
  | none => if isPadded cs then none else below (readBase 10 digits)

/-- Reads the absolute value, at most `limit`, of an integer with a minus sign. -/
def readNegative (limit : Nat) (cs : List Char) : Option Nat :=
  let within (n : Option Nat) : Option Nat := n.filter (· ≤ limit)
  match cs with
  | '-' :: digits =>
    let based := match digits with
      | '0' :: letter :: rest =>
        match baseOfLetter? letter with
        | some base => within (readBase base rest)
        | none => none
      | _ => none
    match based with
    | some n => some n
    | none => if isPadded cs then none else within (readBase 10 digits)
  | _ => none

/-- What an integer is called in a fault. -/
def integerKind? (cs : List Char) : Option String :=
  let shown (sign : String) (n : Nat) (width : String) : String :=
    "integer `" ++ sign ++ Number.natText n ++ "`" ++ width
  let negative (n : Nat) : String := if n = 0 then "" else "-"
  ((readPositive (Nat.pow 2 64) cs).map (fun n => shown "" n "")).or
    (((readNegative (Nat.pow 2 63) cs).map (fun n => shown (negative n) n "")).or
      (((readPositive (Nat.pow 2 128) cs).map (fun n => shown "" n " as u128")).or
        ((readNegative (Nat.pow 2 127) cs).map (fun n => shown (negative n) n " as i128"))))

/-- What a truth value is called in a fault. -/
def boolKind (b : Bool) : String :=
  if b then "boolean `true`" else "boolean `false`"

/-- What a float is called in a fault. -/
def floatKind (x : Float) : String :=
  "floating point `" ++ Number.pointedText x ++ "`"

/-- What a text is called in a fault. -/
def textKind (s : String) : String :=
  "string " ++ Text.shown s

/-- What a plain scalar is called in a fault. -/
def plainKind (s : String) : String :=
  let cs := s.toList
  if s.isEmpty || isNullText s then "unit value"
  else
    match boolOfText? s with
    | some b => boolKind b
    | none =>
      match integerKind? cs with
      | some kind => kind
      | none =>
        if isPadded cs then textKind s
        else
          match floatOfText? s with
          | some x => floatKind x
          | none => textKind s

/-- The tag of a standard kind. -/
def standardTag (name : String) : String :=
  "tag:yaml.org,2002:" ++ name

/-- The wording for a value of the wrong kind. -/
def wrongKind (found expected : String) : String :=
  "invalid type: " ++ found ++ ", expected " ++ expected

/-- The wording for a text that its tag does not fit. -/
def wrongValue (s expected : String) : String :=
  "invalid value: " ++ textKind s ++ ", expected " ++ expected

/-- The wording for a scalar that is not `expected`. -/
def wrongScalar (text : String) (tag : Option String) (style : Style) (expected : String) :
    String :=
  let asked (kind : Option String) (name : String) : String :=
    match kind with
    | some kind => wrongKind kind expected
    | none => wrongValue text name
  let untagged := if style = .plain then plainKind text else textKind text
  match tag with
  | none => wrongKind untagged expected
  | some tag =>
    if tag = standardTag "bool" then asked ((boolOfText? text).map boolKind) "a boolean"
    else if tag = standardTag "int" then asked (integerKind? text.toList) "an integer"
    else if tag = standardTag "float" then asked ((floatOfText? text).map floatKind) "a float"
    else if tag = standardTag "null" then
      asked (if isNullText text then some "unit value" else none) "null"
    else if tag.toList.head? == some '!' then wrongKind untagged expected
    else wrongKind (textKind text) expected

end QualityGates.Yaml
