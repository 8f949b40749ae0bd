import QualityGates.Number.Digits

/-!
# Reading floats

A decimal literal is read as the float nearest to its exact value. The literal may carry a sign,
a point with digits on at least one side, and an exponent; `inf`, `infinity` and `nan` are read
in any mix of upper and lower case.
-/

namespace QualityGates.Number

/-- The float nearest to `significand * 10 ^ exponent`. Magnitudes far outside the range of
floats are decided from the number of digits alone. -/
def nearestFloat (significand : Nat) (exponent : Int) : Float :=
  if significand = 0 then 0.0
  else
    let size := exponent + (Nat.toDigits 10 significand).length
    if 310 < size then 1.0 / 0.0
    else if size < -330 then 0.0
    else Float.ofScientific significand (decide (exponent < 0)) exponent.natAbs

/-- The exponent after a mantissa, zero where the text ends. -/
def readExponent : List Char → Option Int
  | [] => some 0
  | mark :: rest =>
    if mark = 'e' || mark = 'E' then
      match rest with
      | '-' :: digits => (readNat digits).map (fun n => -(n : Int))
      | '+' :: digits => (readNat digits).map (fun n => (n : Int))
      | digits => (readNat digits).map (fun n => (n : Int))
    else none

/-- Reads an unsigned decimal literal. -/
def readUnsigned (cs : List Char) : Option Float :=
  let whole := cs.takeWhile isDigit
  let rest := cs.dropWhile isDigit
  let (fraction, tail) :=
    match rest with
    | '.' :: more => (more.takeWhile isDigit, more.dropWhile isDigit)
    | _ => ([], rest)
  if whole.isEmpty && fraction.isEmpty then none
  else
    match readExponent tail with
    | some exponent => some (nearestFloat (value (whole ++ fraction)) (exponent - fraction.length))
    | none => none

/-- Reads a name of an infinity or of NaN. -/
def readNamed (cs : List Char) : Option Float :=
  match String.ofList (cs.map Char.toLower) with
  | "inf" => some (1.0 / 0.0)
  | "infinity" => some (1.0 / 0.0)
  | "nan" => some (0.0 / 0.0)
  | _ => none

/-- Reads a literal or a name. -/
def readMagnitude (cs : List Char) : Option Float :=
  (readUnsigned cs).or (readNamed cs)

/-- Reads a float with an optional sign and nothing around it. -/
def readFloat : List Char → Option Float
  | '-' :: rest => (readMagnitude rest).map (fun x => -x)
  | '+' :: rest => readMagnitude rest
  | cs => readMagnitude cs

end QualityGates.Number
