/-!
# Ranges of code points

A property of characters is given as a list of closed ranges of code points, or as a list of runs
that may take every other code point only, as capitals and small letters often alternate.
-/

namespace QualityGates.Text

/-- Whether a code point lies in one of the ranges. -/
def inRanges (ranges : List (Nat × Nat)) (n : Nat) : Bool :=
  ranges.any (fun range => range.1 ≤ n && n ≤ range.2)

/-- Membership names the range that holds the code point. -/
theorem inRanges_iff {ranges : List (Nat × Nat)} {n : Nat} :
    inRanges ranges n = true ↔ ∃ range ∈ ranges, range.1 ≤ n ∧ n ≤ range.2 := by
  simp [inRanges]

/-- Every `stride`-th code point from `low` to `high`. -/
structure CodeRun where
  low : Nat
  high : Nat
  stride : Nat
  deriving DecidableEq, Repr, Inhabited

/-- Whether a code point belongs to a run. -/
def CodeRun.holds (run : CodeRun) (n : Nat) : Bool :=
  run.low ≤ n && n ≤ run.high && (n - run.low) % run.stride == 0

/-- Whether a code point belongs to one of the runs. -/
def inRuns (runs : List CodeRun) (n : Nat) : Bool :=
  runs.any (fun run => run.holds n)

end QualityGates.Text
