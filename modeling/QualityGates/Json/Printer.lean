import QualityGates.Json.Basic
import QualityGates.Json.Quoted

/-!
# Writing JSON

The compact form has no blanks. The indented form puts every element and member on a line of its
own, two blanks further in than the bracket around it; empty arrays and objects stay on one line.
-/

namespace QualityGates.Json

mutual

/-- The compact form of a value. -/
def compact : Json → String
  | null => "null"
  | bool true => "true"
  | bool false => "false"
  | number n => n.text
  | string s => quote s
  | array elements => "[" ++ compactElements elements ++ "]"
  | object members => "\x7b" ++ compactMembers members ++ "\x7d"

/-- The compact elements of an array, with commas between them. -/
def compactElements : List Json → String
  | [] => ""
  | [element] => compact element
  | element :: more => compact element ++ "," ++ compactElements more

/-- The compact members of an object, with commas between them. -/
def compactMembers : List (String × Json) → String
  | [] => ""
  | [(name, value)] => quote name ++ ":" ++ compact value
  | (name, value) :: more => quote name ++ ":" ++ compact value ++ "," ++ compactMembers more

end

/-- A line break and the indentation of the next line. -/
def newline (depth : Nat) : String :=
  "\n" ++ String.ofList (List.replicate (2 * depth) ' ')

mutual

/-- The indented form of a value whose brackets stand `depth` levels deep. -/
def indented (depth : Nat) : Json → String
  | null => "null"
  | bool true => "true"
  | bool false => "false"
  | number n => n.text
  | string s => quote s
  | array [] => "[]"
  | array (element :: more) =>
    "[" ++ newline (depth + 1) ++ indented (depth + 1) element ++
      indentedElements (depth + 1) more ++ newline depth ++ "]"
  | object [] => "\x7b\x7d"
  | object ((name, value) :: more) =>
    "\x7b" ++ newline (depth + 1) ++ quote name ++ ": " ++ indented (depth + 1) value ++
      indentedMembers (depth + 1) more ++ newline depth ++ "\x7d"

/-- The elements after the first one, each after a comma on a line of its own. -/
def indentedElements (depth : Nat) : List Json → String
  | [] => ""
  | element :: more =>
    "," ++ newline depth ++ indented depth element ++ indentedElements depth more

/-- The members after the first one, each after a comma on a line of its own. -/
def indentedMembers (depth : Nat) : List (String × Json) → String
  | [] => ""
  | (name, value) :: more =>
    "," ++ newline depth ++ quote name ++ ": " ++ indented depth value ++
      indentedMembers depth more

end

/-- The indented form of a whole document. -/
def pretty (value : Json) : String :=
  indented 0 value

end QualityGates.Json
