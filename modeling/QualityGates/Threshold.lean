import QualityGates.Text.Part

/-!
# Allowed regressions

A benchmark belongs to a category by a marker in its name, and each category has the fraction of its
baseline score that a benchmark may lose. A benchmark with neither marker may lose the larger of the
two fractions.
-/

namespace QualityGates

/-- A category of benchmarks. -/
inductive Category where
  | flat
  | embedded
  deriving DecidableEq, Repr, Inhabited

/-- The name of a category in messages. -/
def Category.text : Category → String
  | flat => "flat"
  | embedded => "embedded"

/-- The allowed fractions, and the markers of the categories. -/
structure Thresholds where
  flat : Float := 0.10
  embedded : Float := 0.15
  flatMarker : String := ".flat_"
  embeddedMarker : String := ".embedded_"
  deriving Inhabited

/-- The larger of two floats, the second one of equals; a NaN counts only beside another one. That
the second of two zeros of different sign is taken is a choice made here; no comparison depends on
it. -/
def largerFloat (x y : Float) : Float :=
  if x.isNaN || x ≤ y then y else x

namespace Thresholds

/-- Whether a float is a fraction between zero and one. -/
def isFraction (x : Float) : Bool :=
  x.isFinite && 0.0 ≤ x && x ≤ 1.0

/-- The first category whose fraction is none, with the value that stands in its place. -/
def invalid? (t : Thresholds) : Option (Category × Float) :=
  if !isFraction t.flat then some (.flat, t.flat)
  else if !isFraction t.embedded then some (.embedded, t.embedded)
  else none

/-- The allowed fraction for a benchmark. -/
def allowedFor (t : Thresholds) (benchmark : String) : Float :=
  if Text.occursIn t.flatMarker benchmark then t.flat
  else if Text.occursIn t.embeddedMarker benchmark then t.embedded
  else largerFloat t.flat t.embedded

/-- Takes over the fractions that are given. -/
def set (t : Thresholds) (flat embedded : Option Float) : Thresholds :=
  { t with flat := flat.getD t.flat, embedded := embedded.getD t.embedded }

end Thresholds
end QualityGates
