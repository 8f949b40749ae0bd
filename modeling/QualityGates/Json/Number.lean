import QualityGates.Json.Basic
import QualityGates.Json.Cursor
import QualityGates.Number.Digits

/-!
# JSON number literals

The digits of a literal are gathered in a word. Digits that no longer fit are dropped, those before
the point each adding one to the exponent. A literal with a fraction, an exponent or dropped digits
is the gathered word, rounded to a float, times or over a power of ten, so its last bit may differ
from that of the nearest float.
-/

namespace QualityGates.Json

open Number (isDigit digitValue)

/-- The float nearest to a power of ten. -/
def powerOfTen (n : Nat) : Float :=
  Float.ofScientific 1 false n

/-- A float times a power of ten; none when the result is too large. Small results are reached in
steps of `10 ^ 308`. -/
def scaleByTen (x : Float) (exponent : Int) : Option Float :=
  if 0 ≤ exponent then
    if exponent ≤ 308 then
      let scaled := x * powerOfTen exponent.toNat
      if scaled.isInf then none else some scaled
    else if x == 0.0 then some x
    else none
  else if -308 ≤ exponent then some (x / powerOfTen (-exponent).toNat)
  else if x == 0.0 then some x
  else scaleByTen (x / powerOfTen 308) (exponent + 308)
termination_by (-exponent).toNat
decreasing_by omega

/-- Gives a magnitude its sign. -/
def signed (negative : Bool) (x : Float) : Float :=
  if negative then -x else x

/-- The float that a gathered word and an exponent stand for. -/
def floatFrom (negative : Bool) (digits : UInt64) (exponent : Int) (c : Cursor) :
    Except Error (JsonNumber × Cursor) :=
  match scaleByTen digits.toFloat exponent with
  | some x => .ok (.float (signed negative x), c)
  | none => c.fail .numberOutOfRange

/-- Moves past digits. -/
def skipDigits (p : Position) : List Char → Cursor
  | [] => ⟨[], p⟩
  | d :: rest => if isDigit d then skipDigits (p.after d) rest else ⟨d :: rest, p⟩

/-- The largest written exponent that is evaluated. -/
def maxExponent : Nat := Nat.pow 2 31 - 1

/-- Reads the digits of an exponent after the first one. Beyond the largest exponent a positive one
is out of range, unless the digits before it are all zero, and a negative one makes the number
zero. -/
def readExponentFrom (negative : Bool) (digits : UInt64) (start : Int) (negativeExponent : Bool)
    (exponent : Nat) (p : Position) : List Char → Except Error (JsonNumber × Cursor)
  | [] => finish ⟨[], p⟩
  | d :: rest =>
    if isDigit d then
      let grown := 10 * exponent + digitValue d
      if maxExponent < grown then
        let c : Cursor := ⟨rest, p.after d⟩
        if digits != 0 && !negativeExponent then c.fail .numberOutOfRange
        else .ok (.float (signed negative 0.0), skipDigits c.position c.rest)
      else readExponentFrom negative digits start negativeExponent grown (p.after d) rest
    else finish ⟨d :: rest, p⟩
where
  /-- The number with its whole exponent. -/
  finish (c : Cursor) : Except Error (JsonNumber × Cursor) :=
    floatFrom negative digits (if negativeExponent then start - exponent else start + exponent) c

/-- Reads an exponent at its mark. -/
def readExponent (negative : Bool) (digits : UInt64) (start : Int) (c : Cursor) :
    Except Error (JsonNumber × Cursor) :=
  let c := c.next
  let (negativeExponent, c) :=
    match c.rest with
    | '-' :: _ => (true, c.next)
    | '+' :: _ => (false, c.next)
    | _ => (false, c)
  match c.rest with
  | [] => c.fail .endInValue
  | d :: rest =>
    if isDigit d then
      readExponentFrom negative digits start negativeExponent (digitValue d) (c.position.after d)
        rest
    else c.failPeeked .invalidNumber

/-- Goes on after the digits of a fraction. -/
def afterFraction (negative : Bool) (digits : UInt64) (exponent : Int) (c : Cursor) :
    Except Error (JsonNumber × Cursor) :=
  match c.rest with
  | 'e' :: _ => readExponent negative digits exponent c
  | 'E' :: _ => readExponent negative digits exponent c
  | _ => floatFrom negative digits exponent c

/-- Whether another digit still fits in a word. -/
def fits (digits : UInt64) (d : Char) : Bool :=
  10 * digits.toNat + digitValue d < Nat.pow 2 64

/-- A word with one more digit. -/
def grow (digits : UInt64) (d : Char) : UInt64 :=
  UInt64.ofNat (10 * digits.toNat + digitValue d)

/-- Reads the digits of a fraction; there is at least one. -/
def readFraction (negative : Bool) (digits : UInt64) (exponent : Int) (read : Nat) (p : Position) :
    List Char → Except Error (JsonNumber × Cursor)
  | [] =>
    if read = 0 then Cursor.fail ⟨[], p⟩ .endInValue
    else afterFraction negative digits (exponent - read) ⟨[], p⟩
  | d :: rest =>
    if isDigit d then
      if fits digits d then
        readFraction negative (grow digits d) exponent (read + 1) (p.after d) rest
      else afterFraction negative digits (exponent - read) (skipDigits p (d :: rest))
    else if read = 0 then Cursor.failPeeked ⟨d :: rest, p⟩ .invalidNumber
    else afterFraction negative digits (exponent - read) ⟨d :: rest, p⟩

/-- Reads whole digits that no longer fit. -/
def readDropped (negative : Bool) (digits : UInt64) (exponent : Nat) (p : Position) :
    List Char → Except Error (JsonNumber × Cursor)
  | [] => floatFrom negative digits exponent ⟨[], p⟩
  | d :: rest =>
    if isDigit d then readDropped negative digits (exponent + 1) (p.after d) rest
    else if d = '.' then readFraction negative digits exponent 0 (p.after d) rest
    else if d = 'e' || d = 'E' then readExponent negative digits exponent ⟨d :: rest, p⟩
    else floatFrom negative digits exponent ⟨d :: rest, p⟩

/-- A literal of digits alone. Minus zero and integers below the smallest negative word are
floats. -/
def wholeNumber (negative : Bool) (digits : UInt64) : JsonNumber :=
  if !negative then .word digits
  else if digits.toNat = 0 || Nat.pow 2 63 < digits.toNat then .float (-digits.toFloat)
  else .negative (Int64.ofInt (-(digits.toNat : Int)))

/-- Goes on after whole digits that fit. -/
def afterWhole (negative : Bool) (digits : UInt64) (c : Cursor) :
    Except Error (JsonNumber × Cursor) :=
  match c.rest with
  | '.' :: rest => readFraction negative digits 0 0 (c.position.after '.') rest
  | 'e' :: _ => readExponent negative digits 0 c
  | 'E' :: _ => readExponent negative digits 0 c
  | _ => .ok (wholeNumber negative digits, c)

/-- Reads the whole digits after the first one. -/
def readWhole (negative : Bool) (digits : UInt64) (p : Position) :
    List Char → Except Error (JsonNumber × Cursor)
  | [] => afterWhole negative digits ⟨[], p⟩
  | d :: rest =>
    if isDigit d then
      if fits digits d then readWhole negative (grow digits d) (p.after d) rest
      else readDropped negative digits 0 p (d :: rest)
    else afterWhole negative digits ⟨d :: rest, p⟩

/-- Reads a number after its sign; a leading zero stands alone. -/
def readMagnitude (negative : Bool) (c : Cursor) : Except Error (JsonNumber × Cursor) :=
  match c.rest with
  | [] => c.fail .endInValue
  | d :: rest =>
    if d = '0' then
      match rest with
      | e :: _ =>
        if isDigit e then c.next.failPeeked .invalidNumber else afterWhole negative 0 c.next
      | [] => afterWhole negative 0 c.next
    else if isDigit d then
      readWhole negative (UInt64.ofNat (digitValue d)) (c.position.after d) rest
    else c.failPeeked .invalidNumber

/-- Reads a number at its sign or first digit. -/
def readNumber (c : Cursor) : Except Error (JsonNumber × Cursor) :=
  match c.rest with
  | '-' :: _ => readMagnitude true c.next
  | _ => readMagnitude false c

end QualityGates.Json
