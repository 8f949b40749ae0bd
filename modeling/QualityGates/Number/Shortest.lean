/-!
# The fewest decimal digits of a binary fraction

Every real between the midpoints to the two neighbouring floats reads back as the float itself;
the midpoints do too when the significand is even. `shortest` walks down the decimal grids
`10 ^ k` and stops at the first one with a point in that interval, so no shorter decimal reads
back, and of two points it takes the nearer one. A `Tie` decides between two that are equally near.
-/

namespace QualityGates.Number

/-- A decimal `digits * 10 ^ exponent`. -/
structure Decimal where
  digits : Nat
  exponent : Int
  deriving DecidableEq, Repr

/-- Which of two equally near decimals is taken. -/
inductive Tie where
  /-- The larger one. -/
  | up
  /-- The one whose last digit is even. -/
  | even
  deriving DecidableEq, Repr

/-- Whether the decimal above is taken when the last digits of the one below are `below`. -/
def Tie.takesAbove (tie : Tie) (below : Nat) : Bool :=
  match tie with
  | up => true
  | even => below % 2 == 1

/-- The interval of reals that round to `significand * 2 ^ exponent`, in quarter units of the
significand. -/
structure RoundingInterval where
  low : Nat
  middle : Nat
  high : Nat
  closed : Bool
  exponent : Int

/-- The interval is shorter below a power of two, where the floats lie twice as close. -/
def RoundingInterval.around (significand : Nat) (exponent : Int) : RoundingInterval where
  low := 4 * significand - (if significand = Nat.pow 2 52 ∧ -1074 < exponent then 1 else 2)
  middle := 4 * significand
  high := 4 * significand + 2
  closed := significand % 2 = 0
  exponent := exponent - 2

/-- The point of the grid `10 ^ k` inside the interval that is nearest to its middle. -/
def RoundingInterval.onGrid? (r : RoundingInterval) (tie : Tie) (k : Int) : Option Nat :=
  let scale := Nat.pow 2 r.exponent.toNat * Nat.pow 10 (-k).toNat
  let unit := Nat.pow 10 k.toNat * Nat.pow 2 (-r.exponent).toNat
  let inside (point : Nat) : Bool :=
    let low := r.low * scale
    let high := r.high * scale
    if r.closed then low ≤ point * unit && point * unit ≤ high
    else low < point * unit && point * unit < high
  let below := r.middle * scale / unit
  let above := below + 1
  match inside below, inside above with
  | true, true =>
    let toBelow := r.middle * scale - below * unit
    let toAbove := above * unit - r.middle * scale
    if toAbove < toBelow || (toAbove == toBelow && tie.takesAbove below) then some above
    else some below
  | true, false => some below
  | false, true => some above
  | false, false => none

/-- The first grid point on a grid no coarser than `10 ^ k`, looking at `fuel` grids. -/
def RoundingInterval.search (r : RoundingInterval) (tie : Tie) : (fuel : Nat) → (k : Int) → Decimal
  | 0, k => ⟨r.middle * Nat.pow 2 r.exponent.toNat * Nat.pow 10 (-k).toNat
      / (Nat.pow 10 k.toNat * Nat.pow 2 (-r.exponent).toNat), k⟩
  | fuel + 1, k =>
    match r.onGrid? tie k with
    | some digits => ⟨digits, k⟩
    | none => r.search tie fuel (k - 1)

/-- The shortest decimal that reads back as a positive float. The first grid is coarser than the
float itself, and seventeen digits always suffice. -/
def shortest (tie : Tie) (significand : Nat) (exponent : Int) : Decimal :=
  let bits : Int := (Nat.log2 significand + 1 : Nat)
  (RoundingInterval.around significand exponent).search tie 30
    ((bits + exponent) * 30103 / 100000 + 2)

end QualityGates.Number
