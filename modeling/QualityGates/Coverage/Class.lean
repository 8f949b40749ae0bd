import QualityGates.Number.FloatText
import QualityGates.Path

/-!
# Class coverage

How many lines of a class were covered, and the order in which classes are ranked: the least covered
ones first, of equally covered ones those with more missed lines, then by name.
-/

namespace QualityGates

/-- The coverage of a class. The covered share in percent is kept by its bits: classes are ranked by
them, and they tell floats that are not numbers apart. -/
structure ClassCoverage where
  name : String
  missed : UInt64
  covered : UInt64
  percentBits : UInt64
  deriving DecidableEq, Inhabited

/-- The covered share in percent; where nothing is counted everything is covered. The sum of the
counts wraps, as it does in a release build. -/
def coveragePercent (missed covered : UInt64) : Float :=
  let total := missed + covered
  if total = 0 then 100.0 else covered.toFloat / total.toFloat * 100.0

namespace ClassCoverage

/-- The coverage of a class with some counts. -/
def ofCounts (name : String) (missed covered : UInt64) : ClassCoverage :=
  { name, missed, covered, percentBits := (coveragePercent missed covered).toBits }

/-- The covered share in percent. -/
def percent (c : ClassCoverage) : Float :=
  .ofBits c.percentBits

/-- A key by which the bits of floats are ordered, from the negative ones with the largest magnitude
up. -/
def floatKey (bits : UInt64) : Int :=
  if bits.toNat < Nat.pow 2 63 then bits.toNat else (Nat.pow 2 63 : Int) - 1 - (bits.toNat : Int)

/-- The order of the ranking. -/
def rankOrder (a b : ClassCoverage) : Ordering :=
  (compare (floatKey a.percentBits) (floatKey b.percentBits)).then
    ((compare b.missed a.missed).then (Path.compareChars a.name.toList b.name.toList))

/-- Whether a class is ranked at or before another one. -/
def ranksBefore (a b : ClassCoverage) : Bool :=
  a.rankOrder b != .gt

/-- Ranks classes; equally ranked ones keep their order. -/
def ranked (classes : List ClassCoverage) : List ClassCoverage :=
  classes.mergeSort ranksBefore

end ClassCoverage
end QualityGates
