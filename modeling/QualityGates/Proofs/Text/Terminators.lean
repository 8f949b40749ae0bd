import Mathlib.Data.List.Forall2
import QualityGates.Proofs.Text.Lines

/-!
# Lines and their terminators

The lines of a text with what ends each of them give the text back. A line ends with a line feed,
with a carriage return and a line feed, or with the text, and only one way of cutting the text has
lines that end like this (`lines_eq_iff_terminates`). Where the text has no carriage returns, it
makes no difference whether its lines end with a line feed or with both.
-/

namespace QualityGates.Text

/-- How a line ends. -/
inductive EndsWith (line : List Char) : List Char → Prop
  /-- With a line feed; a carriage return in front of that would not belong to the line. -/
  | feed (bare : line.getLast? ≠ some '\r') : EndsWith line ['\n']
  /-- With a carriage return and a line feed. -/
  | returnFeed : EndsWith line ['\r', '\n']
  /-- With the text, where no empty line starts. -/
  | text (nonempty : line ≠ []) : EndsWith line []

/-- Lines and the endings behind them that a text is put together from. -/
structure Terminates (cs : List Char) (ls endings : List (List Char)) : Prop where
  /-- The lines and their endings in turn are the text. -/
  joined : (List.zipWith (· ++ ·) ls endings).flatten = cs
  /-- Every line has an ending. -/
  each : List.Forall₂ EndsWith ls endings
  /-- No line feed stands inside a line. -/
  whole : ∀ line ∈ ls, '\n' ∉ line
  /-- Only the last line ends with the text. -/
  openLast : [] ∉ endings.dropLast

variable {cs line ending : List Char} {ls endings : List (List Char)}

/-- A line in front of a text goes with it, unless it ends with the text. -/
theorem Terminates.cons (rest : Terminates cs ls endings) (whole : '\n' ∉ line)
    (ends : EndsWith line ending) (filled : ending ≠ []) :
    Terminates (line ++ ending ++ cs) (line :: ls) (ending :: endings) := by
  refine ⟨?_, .cons ends rest.each, List.forall_mem_cons.mpr ⟨whole, rest.whole⟩, ?_⟩
  · rw [List.zipWith_cons_cons, List.flatten_cons, rest.joined]
  · cases endings with
    | nil => exact List.not_mem_nil
    | cons next endings =>
      rw [List.dropLast_cons_of_ne_nil (List.cons_ne_nil _ _)]
      exact List.not_mem_cons_of_ne_of_not_mem (Ne.symm filled) rest.openLast

/-- The lines that a text is made up of have endings. -/
theorem Lines.exists_terminates (made : Lines cs ls) : ∃ endings, Terminates cs ls endings := by
  induction made with
  | none => exact ⟨[], rfl, .nil, nofun, List.not_mem_nil⟩
  | @last line nonempty whole =>
    have single : (List.zipWith (· ++ ·) [line] [[]]).flatten = line := by simp
    exact ⟨[[]], single, .cons (.text nonempty) .nil, by simpa using whole, List.not_mem_nil⟩
  | @feed line rest more whole bare _ ih =>
    obtain ⟨endings, terminates⟩ := ih
    have longer := terminates.cons whole (.feed bare) (List.cons_ne_nil _ _)
    rw [List.append_assoc, List.singleton_append] at longer
    exact ⟨_, longer⟩
  | @returnFeed line rest more whole _ ih =>
    obtain ⟨endings, terminates⟩ := ih
    have ends : EndsWith line ['\r', '\n'] := .returnFeed
    have longer := terminates.cons whole ends (List.cons_ne_nil _ _)
    rw [List.append_assoc] at longer
    exact ⟨_, longer⟩

/-- Lines with endings are what a text is made up of. -/
theorem Terminates.lines (terminates : Terminates cs ls endings) : Lines cs ls := by
  obtain ⟨rfl, each, whole, openLast⟩ := terminates
  induction each with
  | nil => exact .none
  | @cons line ending ls endings ends each ih =>
    rw [List.forall_mem_cons] at whole
    have behind : [] ∉ endings.dropLast := by
      cases endings with
      | nil => exact List.not_mem_nil
      | cons next endings =>
        rw [List.dropLast_cons_of_ne_nil (List.cons_ne_nil _ _), List.mem_cons, not_or]
          at openLast
        exact openLast.2
    have rest := ih whole.2 behind
    rw [List.zipWith_cons_cons, List.flatten_cons, List.append_assoc]
    cases ends with
    | feed bare => exact .feed whole.1 bare rest
    | returnFeed => exact .returnFeed whole.1 rest
    | text nonempty =>
      -- A line that ends with the text is the last one.
      cases each with
      | nil => simpa using Lines.last nonempty whole.1
      | cons next each =>
        rw [List.dropLast_cons_of_ne_nil (List.cons_ne_nil _ _)] at openLast
        exact absurd List.mem_cons_self openLast

/-- Cutting a text gives the only lines that have endings with which they are the text. -/
theorem lines_eq_iff_terminates : lines cs = ls ↔ ∃ endings, Terminates cs ls endings := by
  rw [lines_eq_iff]
  exact ⟨Lines.exists_terminates, fun ⟨_, terminates⟩ => terminates.lines⟩

/-! ## Carriage returns -/

/-- A text with a carriage return in front of every line feed. -/
def withReturns (cs : List Char) : List Char :=
  cs.flatMap fun c => if c = '\n' then ['\r', '\n'] else [c]

/-- Where there is no line feed, nothing changes. -/
theorem withReturns_of_whole (whole : '\n' ∉ cs) : withReturns cs = cs := by
  unfold withReturns
  induction cs with
  | nil => rfl
  | cons c cs ih =>
    rw [List.mem_cons, not_or] at whole
    rw [List.flatMap_cons, if_neg (Ne.symm whole.1), ih whole.2, List.singleton_append]

/-- Each line feed gets a carriage return of its own. -/
theorem withReturns_append_feed (whole : '\n' ∉ line) (rest : List Char) :
    withReturns (line ++ '\n' :: rest) = line ++ '\r' :: '\n' :: withReturns rest := by
  have inside := withReturns_of_whole whole
  unfold withReturns at inside ⊢
  rw [List.flatMap_append, inside, List.flatMap_cons, if_pos rfl]
  rfl

/-- A text without carriage returns is made up of the same lines when these get some. -/
theorem Lines.withReturns (made : Lines cs ls) (bare : '\r' ∉ cs) :
    Lines (withReturns cs) ls := by
  induction made with
  | none => exact .none
  | last nonempty whole =>
    rw [withReturns_of_whole whole]
    exact .last nonempty whole
  | feed whole _ _ ih =>
    rw [withReturns_append_feed whole]
    exact .returnFeed whole (ih fun inside => bare (by simp [inside]))
  | returnFeed => exact absurd (by simp) bare

/-- A text without carriage returns has the same lines when these get some. -/
theorem lines_withReturns (bare : '\r' ∉ cs) : lines (withReturns cs) = lines cs :=
  ((lines_made cs).withReturns bare).lines_eq

end QualityGates.Text
