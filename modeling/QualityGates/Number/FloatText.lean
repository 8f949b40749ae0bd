import QualityGates.Number.Binary64
import QualityGates.Number.Digits
import QualityGates.Number.Shortest

/-!
# Texts of floats

Three formats are in use. Messages show a float in positional notation with the fewest digits
that read back, the larger ones if two decimals are equally near. Regression figures have a fixed
number of places, with ties to the even digit of the exact binary value. Structured reports use the
fewest digits too, the even ones of two decimals that are equally near, always with a point or an
exponent, and switch to exponents outside the range from `10 ^ -5` to `10 ^ 16`.
-/

namespace QualityGates.Number

/-- A run of zeros. -/
def zeros (n : Nat) : String :=
  String.ofList (List.replicate n '0')

/-- Writes a decimal whose digits are `digits` and whose point stands after the first `point` of
them. -/
def positional (digits : List Char) (point : Int) : String :=
  if point ≤ 0 then "0." ++ zeros (-point).toNat ++ String.ofList digits
  else if digits.length ≤ point.toNat then
    String.ofList digits ++ zeros (point.toNat - digits.length)
  else
    String.ofList (digits.take point.toNat) ++ "." ++ String.ofList (digits.drop point.toNat)

/-- Writes a decimal with one digit before the point and a signed exponent. -/
def scientific (digits : List Char) (point : Int) : String :=
  let fraction := digits.drop 1
  let mantissa := String.ofList (digits.take 1) ++
    (if fraction.isEmpty then "" else "." ++ String.ofList fraction)
  let exponent := point - 1
  mantissa ++ "e" ++ (if exponent < 0 then "-" else "+") ++ natText exponent.natAbs

/-- A minus sign for a negative number. -/
def signText (negative : Bool) : String :=
  if negative then "-" else ""

/-- The digits of a finite float and the position of its point. -/
def shortestDigits (tie : Tie) (significand : Nat) (exponent : Int) : List Char × Int :=
  let decimal := shortest tie significand exponent
  let digits := Nat.toDigits 10 decimal.digits
  (digits, digits.length + decimal.exponent)

/-- The fewest digits that read back, in positional notation whatever the magnitude. -/
def plainText (x : Float) : String :=
  match Binary64.ofFloat x with
  | .nan => "NaN"
  | .infinite negative => signText negative ++ "inf"
  | .finite negative significand exponent =>
    if significand = 0 then signText negative ++ "0"
    else
      let (digits, point) := shortestDigits .up significand exponent
      signText negative ++ positional digits point

/-- Whether a text holds a decimal point. -/
def hasPoint (s : String) : Bool :=
  s.toList.contains '.'

/-- The positional text of a float, with `.0` when it would show no point; infinities and NaN
stay as they are. -/
def pointedText (x : Float) : String :=
  let text := plainText x
  if x.isFinite && !hasPoint text then text ++ ".0" else text

/-- The text of a finite float in a structured report; there is none for the other floats. -/
def reportText? (x : Float) : Option String :=
  match Binary64.ofFloat x with
  | .finite negative significand exponent =>
    if significand = 0 then some (signText negative ++ "0.0")
    else
      let (digits, point) := shortestDigits .even significand exponent
      let body :=
        if -5 < point && point ≤ 16 then
          let text := positional digits point
          if hasPoint text then text else text ++ ".0"
        else scientific digits point
      some (signText negative ++ body)
  | _ => none

/-- The exact value rounded to `places` places after the point. -/
def fixedText (places : Nat) (x : Float) : String :=
  match Binary64.ofFloat x with
  | .nan => "NaN"
  | .infinite negative => signText negative ++ "inf"
  | .finite negative significand exponent =>
    let scaled := divideToEven (significand * Nat.pow 2 exponent.toNat * Nat.pow 10 places)
      (Nat.pow 2 (-exponent).toNat)
    let digits := Nat.toDigits 10 scaled
    let padded := List.replicate (places + 1 - digits.length) '0' ++ digits
    let whole := padded.length - places
    signText negative ++ String.ofList (padded.take whole) ++
      (if places = 0 then "" else "." ++ String.ofList (padded.drop whole))

/-- A text moved to the right edge of a column. -/
def padLeft (width : Nat) (s : String) : String :=
  String.ofList (List.replicate (width - s.length) ' ') ++ s

end QualityGates.Number
