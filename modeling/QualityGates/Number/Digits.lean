/-!
# Decimal digits

Natural numbers written as ASCII digits. Leading zeros are allowed; signs, blanks and the digits
of other scripts are not. A word is a natural number below `2 ^ 64`.
-/

namespace QualityGates.Number

/-- One of the ten ASCII digits. -/
def isDigit (c : Char) : Bool :=
  '0' ≤ c && c ≤ '9'

/-- The value of a digit. -/
def digitValue (c : Char) : Nat :=
  c.toNat - '0'.toNat

/-- The number that `cs` continues after the digits already worth `start`. -/
def valueFrom (start : Nat) (cs : List Char) : Nat :=
  cs.foldl (fun n c => 10 * n + digitValue c) start

/-- The number written by a list of digits. -/
def value (cs : List Char) : Nat :=
  valueFrom 0 cs

/-- Reads one or more digits and nothing else. -/
def readNat (cs : List Char) : Option Nat :=
  if !cs.isEmpty && cs.all isDigit then some (value cs) else none

/-- Reads one or more digits whose value fits in a word. -/
def readWord (cs : List Char) : Option UInt64 :=
  match readNat cs with
  | some n => if n < Nat.pow 2 64 then some (UInt64.ofNat n) else none
  | none => none

/-- Reads a word that may carry a plus sign. -/
def readPlusWord : List Char → Option UInt64
  | '+' :: rest => readWord rest
  | cs => readWord cs

/-- The shortest decimal text of a number. -/
def natText (n : Nat) : String :=
  String.ofList (Nat.toDigits 10 n)

end QualityGates.Number
