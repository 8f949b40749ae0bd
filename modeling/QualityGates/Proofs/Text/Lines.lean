import Mathlib.Data.List.Basic
import QualityGates.Text.Line

/-!
# The lines of a text, described by their terminators

`Lines` says how a text is made up of lines, without saying how they are found. Cutting a text
gives lines of that kind, and a text is made up of lines in one way only, so the description and
`lines` agree (`lines_eq_iff`). Behind a text whose last line is ended, cutting starts again
(`lines_append`).
-/

namespace QualityGates.Text

/-- A text that is made up of lines. A line is followed by a line feed, and a carriage return in
front of the line feed belongs to neither line; only the last line may go without a line feed, and
then it is not empty. -/
inductive Lines : List Char → List (List Char) → Prop
  | none : Lines [] []
  | last {line : List Char} (nonempty : line ≠ []) (whole : '\n' ∉ line) : Lines line [line]
  | feed {line rest : List Char} {more : List (List Char)} (whole : '\n' ∉ line)
      (bare : line.getLast? ≠ some '\r') (tail : Lines rest more) :
      Lines (line ++ '\n' :: rest) (line :: more)
  | returnFeed {line rest : List Char} {more : List (List Char)} (whole : '\n' ∉ line)
      (tail : Lines rest more) : Lines (line ++ '\r' :: '\n' :: rest) (line :: more)

/-- A character in front of a text joins its first line, unless it ends a line of its own. -/
theorem lines_cons {c : Char} {rest : List Char} (feed : c ≠ '\n')
    (alone : c = '\r' → rest.head? ≠ some '\n') :
    lines (c :: rest) = (c :: (lines rest).headD []) :: (lines rest).tail := by
  rw [lines.eq_4 c rest feed fun more same next => alone same (by rw [next]; rfl)]
  cases lines rest <;> rfl

/-- A line without a terminator inside it is cut off at its line feed. -/
theorem lines_append_feed {line : List Char} (rest : List Char) (whole : '\n' ∉ line)
    (bare : line.getLast? ≠ some '\r') : lines (line ++ '\n' :: rest) = line :: lines rest := by
  induction line with
  | nil => rw [List.nil_append, lines]
  | cons c line ih =>
    rw [List.mem_cons, not_or] at whole
    rw [List.cons_append, lines_cons (Ne.symm whole.1)]
    · cases line with
      | nil => rw [List.nil_append, lines]; rfl
      | cons d line => rw [ih whole.2 (by simpa using bare)]; rfl
    · intro same
      cases line with
      | nil => exact absurd (by rw [same]; rfl) bare
      | cons d line =>
        intro next
        exact whole.2 (by simp at next; simp [next])

/-- A line is cut off at its carriage return when a line feed follows. -/
theorem lines_append_returnFeed {line : List Char} (rest : List Char) (whole : '\n' ∉ line) :
    lines (line ++ '\r' :: '\n' :: rest) = line :: lines rest := by
  induction line with
  | nil => rw [List.nil_append, lines]
  | cons c line ih =>
    rw [List.mem_cons, not_or] at whole
    rw [List.cons_append, lines_cons (Ne.symm whole.1), ih whole.2]
    · rfl
    · intro _
      cases line with
      | nil => simp
      | cons d line =>
        intro next
        exact whole.2 (by simp at next; simp [next])

/-- A text without a line feed is one line. -/
theorem lines_single {line : List Char} (nonempty : line ≠ []) (whole : '\n' ∉ line) :
    lines line = [line] := by
  induction line with
  | nil => exact absurd rfl nonempty
  | cons c line ih =>
    rw [List.mem_cons, not_or] at whole
    rw [lines_cons (Ne.symm whole.1)]
    · cases line with
      | nil => rfl
      | cons d line => rw [ih (by simp) whole.2]; rfl
    · intro _ next
      exact whole.2 (List.mem_of_mem_head? next)

/-- A text is made up of lines in one way only. -/
theorem Lines.lines_eq {cs : List Char} {ls : List (List Char)} (made : Lines cs ls) :
    lines cs = ls := by
  induction made with
  | none => rw [lines]
  | last nonempty whole => exact lines_single nonempty whole
  | feed whole bare _ ih => rw [lines_append_feed _ whole bare, ih]
  | returnFeed whole _ ih => rw [lines_append_returnFeed _ whole, ih]

/-- A character that ends no line goes to the front of the first line. -/
theorem Lines.cons {c : Char} {rest : List Char} {ls : List (List Char)} (made : Lines rest ls)
    (other : c ≠ '\n') (alone : c = '\r' → rest.head? ≠ some '\n') :
    Lines (c :: rest) ((c :: ls.headD []) :: ls.tail) := by
  cases made with
  | none => exact .last (by simp) (by simpa using Ne.symm other)
  | last nonempty whole =>
    exact .last (by simp) (by simpa using ⟨Ne.symm other, whole⟩)
  | @feed line rest more whole bare tail =>
    refine @feed (c :: line) rest more (by simpa using ⟨Ne.symm other, whole⟩) ?_ tail
    cases line with
    | nil => simpa using fun same => alone same rfl
    | cons d line => simpa using bare
  | @returnFeed line rest more whole tail =>
    exact @returnFeed (c :: line) rest more (by simpa using ⟨Ne.symm other, whole⟩) tail

/-- Cutting a text gives the lines that it is made up of. -/
theorem lines_made (cs : List Char) : Lines cs (lines cs) := by
  fun_induction lines cs with
  | case1 => exact .none
  | case2 rest ih => exact @Lines.feed [] rest _ (by simp) (by simp) ih
  | case3 rest ih => exact @Lines.returnFeed [] rest _ (by simp) ih
  | case4 c rest feed alone empty ih =>
    rw [empty] at ih
    exact ih.cons (by simpa using feed) (fun same next => by
      cases rest with
      | nil => simp at next
      | cons d rest => simp at next; exact alone rest same (by rw [next]))
  | case5 c rest feed alone line more found ih =>
    rw [found] at ih
    exact ih.cons (by simpa using feed) (fun same next => by
      cases rest with
      | nil => simp at next
      | cons d rest => simp at next; exact alone rest same (by rw [next]))

/-- A text without a last line that is not ended. -/
def Ended (cs : List Char) : Prop :=
  ∀ c ∈ cs.getLast?, c = '\n'

/-- The end of a text is ended like the text. -/
theorem Ended.behind {front rest : List Char} (ended : Ended (front ++ rest)) : Ended rest :=
  fun c last => ended c (List.mem_getLast?_append_of_mem_getLast? last)

/-- A text is ended when it is with a character in front. -/
theorem Ended.tail {c : Char} {rest : List Char} (ended : Ended (c :: rest)) : Ended rest :=
  fun d last => ended d (List.mem_getLast?_cons last)

/-- The last line is ended by a line feed. -/
theorem Ended.newline_mem {line : List Char} (ended : Ended line) (nonempty : line ≠ []) :
    '\n' ∈ line :=
  ended _ (List.getLast?_eq_some_getLast nonempty) ▸ List.getLast_mem nonempty

/-- Behind a text whose last line is ended, other lines follow. -/
theorem Lines.append {cs rest : List Char} {ls more : List (List Char)} (made : Lines cs ls)
    (ended : Ended cs) (others : Lines rest more) : Lines (cs ++ rest) (ls ++ more) := by
  induction made with
  | none => exact others
  | last nonempty whole => exact absurd (ended.newline_mem nonempty) whole
  | feed whole bare _ ih =>
    rw [List.append_assoc, List.cons_append]
    exact .feed whole bare (ih ended.behind.tail)
  | returnFeed whole _ ih =>
    rw [List.append_assoc, List.cons_append, List.cons_append]
    exact .returnFeed whole (ih ended.behind.tail.tail)

/-- A text whose last line is ended has a line for every line feed. -/
theorem Lines.length_eq {cs : List Char} {ls : List (List Char)} (made : Lines cs ls)
    (ended : Ended cs) : ls.length = cs.count '\n' := by
  induction made with
  | none => rfl
  | last nonempty whole => exact absurd (ended.newline_mem nonempty) whole
  | feed whole bare _ ih =>
    rw [List.length_cons, ih ended.behind.tail, List.count_append, List.count_eq_zero.mpr whole,
      List.count_cons_self, Nat.zero_add]
  | returnFeed whole _ ih =>
    rw [List.length_cons, ih ended.behind.tail.tail, List.count_append,
      List.count_eq_zero.mpr whole, List.count_cons_of_ne (by decide), List.count_cons_self,
      Nat.zero_add]

/-- A text whose last line is ended is cut like what follows it, one after the other. -/
theorem lines_append {cs : List Char} (ended : Ended cs) (rest : List Char) :
    lines (cs ++ rest) = lines cs ++ lines rest :=
  ((lines_made cs).append ended (lines_made rest)).lines_eq

/-- The lines of a text are those that it is made up of. -/
theorem lines_eq_iff {cs : List Char} {ls : List (List Char)} : lines cs = ls ↔ Lines cs ls :=
  ⟨fun same => same ▸ lines_made cs, Lines.lines_eq⟩

end QualityGates.Text
