import Mathlib.Data.List.TakeWhile
import QualityGates.Text.Blank

/-!
# Trimmed text

Trimming leaves nothing of a text exactly when all of it is blank, and blanks at the ends of a text
make no difference to what is left of it. `TrimsTo` describes what is left without saying how it is
found, and `trim_eq_iff` says that trimming finds it.
-/

namespace QualityGates.Text

variable {cs blanks : List Char}

/-- Nothing is left between the ends of a text exactly when all of it belongs to them. -/
theorem dropEnds_eq_nil_iff (isEnd : Char → Bool) :
    ((cs.dropWhile isEnd).reverse.dropWhile isEnd).reverse = [] ↔ ∀ c ∈ cs, isEnd c = true := by
  have start : cs.dropWhile isEnd = [] ↔ ∀ c ∈ cs, isEnd c = true := List.dropWhile_eq_nil_iff
  rw [← start, List.reverse_eq_nil_iff, List.dropWhile_eq_nil_iff]
  constructor
  · intro blank
    -- What is left at the start does not belong to the ends, so there is no such character.
    by_contra present
    have first := List.head_dropWhile_not isEnd present
    exact Bool.false_ne_true
      (first.symm.trans (blank _ (List.mem_reverse.mpr (List.head_mem present))))
  · intro nothing
    rw [nothing]
    exact nofun

/-- Nothing is left of a text that is trimmed exactly when all of it is blank. -/
theorem trim_eq_nil_iff : trim cs = [] ↔ ∀ c ∈ cs, isBlank c = true :=
  dropEnds_eq_nil_iff isBlank

/-- The trimmed text is empty exactly when the text is blank. -/
theorem trimmed_isEmpty {s : String} : (trimmed s).isEmpty = s.toList.all isBlank := by
  rw [Bool.eq_iff_iff, String.isEmpty_iff, List.all_eq_true, ← trim_eq_nil_iff]
  unfold trimmed
  rw [← String.toList_eq_nil_iff, String.toList_ofList]

/-- Blanks in front of a text make no difference. -/
theorem trim_blanks_append (blank : ∀ c ∈ blanks, isBlank c = true) :
    trim (blanks ++ cs) = trim cs := by
  unfold trim trimStart
  rw [List.dropWhile_append_of_pos blank]

/-- Blanks behind a text make no difference. -/
theorem trim_append_blanks (blank : ∀ c ∈ blanks, isBlank c = true) :
    trim (cs ++ blanks) = trim cs := by
  by_cases nothing : ∀ c ∈ cs, isBlank c = true
  · have all : ∀ c ∈ cs ++ blanks, isBlank c = true := fun c member =>
      (List.mem_append.mp member).elim (nothing c) (blank c)
    rw [trim_eq_nil_iff.mpr nothing, trim_eq_nil_iff.mpr all]
  · have present : (trimStart cs).isEmpty = false := by
      rw [List.isEmpty_eq_false_iff]
      exact fun empty => nothing (List.dropWhile_eq_nil_iff.mp empty)
    have start : trimStart (cs ++ blanks) = trimStart cs ++ blanks := by
      unfold trimStart at present ⊢
      rw [List.dropWhile_append, present]
      rfl
    have behind : ∀ c ∈ blanks.reverse, isBlank c = true := fun c member =>
      blank c (List.mem_reverse.mp member)
    unfold trim trimEnd
    rw [start, List.reverse_append, List.dropWhile_append_of_pos behind]

/-- What is left of a text without the blanks around it. -/
structure TrimsTo (cs inner : List Char) : Prop where
  /-- What stands in front of it and behind it is blank. -/
  around : ∃ front back, cs = front ++ inner ++ back ∧
    (∀ c ∈ front, isBlank c = true) ∧ ∀ c ∈ back, isBlank c = true
  /-- It does not start with a blank. -/
  starts : ∀ c ∈ inner.head?, isBlank c = false
  /-- It does not end with a blank. -/
  ends : ∀ c ∈ inner.getLast?, isBlank c = false

/-- What is left without the blanks in front does not start with a blank. -/
theorem head?_trimStart (cs : List Char) : ∀ c ∈ (trimStart cs).head?, isBlank c = false := by
  intro c first
  have stops := List.head?_dropWhile_not isBlank cs
  have found : (cs.dropWhile isBlank).head? = some c := first
  simpa [found] using stops

/-- Only blanks are dropped in front. -/
theorem exists_append_trimStart (cs : List Char) :
    ∃ front, cs = front ++ trimStart cs ∧ ∀ c ∈ front, isBlank c = true :=
  ⟨cs.takeWhile isBlank, List.takeWhile_append_dropWhile.symm,
    fun _ member => List.mem_takeWhile_imp member⟩

/-- Nothing is dropped in front of a text that does not start with a blank. -/
theorem trimStart_eq_self (starts : ∀ c ∈ cs.head?, isBlank c = false) : trimStart cs = cs := by
  cases cs with
  | nil => rfl
  | cons c cs => exact List.dropWhile_cons_of_neg (by simpa using starts)

/-- Dropping blanks behind a text is dropping those in front of it read backwards. -/
theorem trimEnd_eq (cs : List Char) : trimEnd cs = (trimStart cs.reverse).reverse := rfl

/-- Trimming takes away exactly the blanks around a text. -/
theorem trim_eq_iff {inner : List Char} : trim cs = inner ↔ TrimsTo cs inner := by
  constructor
  · rintro rfl
    obtain ⟨front, split, inFront⟩ := exists_append_trimStart cs
    obtain ⟨back, backwards, behind⟩ := exists_append_trimStart (trimStart cs).reverse
    have rest : trimStart cs = trim cs ++ back.reverse := by
      have forwards := congrArg List.reverse backwards
      rw [List.reverse_reverse, List.reverse_append] at forwards
      exact forwards
    refine ⟨⟨front, back.reverse, ?_, inFront, ?_⟩, ?_, ?_⟩
    · rw [List.append_assoc, ← rest]
      exact split
    · exact fun c member => behind c (List.mem_reverse.mp member)
    · intro c first
      apply head?_trimStart cs
      rw [rest, List.head?_append, Option.mem_def.mp first]
      rfl
    · intro c last
      apply head?_trimStart (trimStart cs).reverse
      rwa [trim, trimEnd_eq, List.getLast?_reverse] at last
  · rintro ⟨⟨front, back, rfl, inFront, behind⟩, starts, ends⟩
    have backwards : trimStart inner.reverse = inner.reverse :=
      trimStart_eq_self (by rwa [List.head?_reverse])
    rw [trim_append_blanks behind, trim_blanks_append inFront, trim, trimStart_eq_self starts,
      trimEnd_eq, backwards, List.reverse_reverse]

/-- A text without blanks is left as it is. -/
theorem trimsTo_self (bare : ∀ c ∈ cs, isBlank c = false) : TrimsTo cs cs :=
  ⟨⟨[], [], by simp, nofun, nofun⟩, fun c first => bare c (List.mem_of_mem_head? first),
    fun c last => bare c (List.mem_of_getLast? last)⟩

end QualityGates.Text
