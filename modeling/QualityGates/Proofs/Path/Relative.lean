import QualityGates.Layout
import QualityGates.Proofs.Path.Child

/-!
# Paths seen from a root

A path in normal form is written as its names, with a separator in front if it starts at the root of
the file tree. Below the root of a project such a path is shown as the names behind those of the
root, so joining a relative path to the root and looking at it from there gives its text back.
Outside of it a relative path is shown as it is, but an absolute one with a second separator in
front, since the root of the file tree is a component that is written `/` itself (`relative_exact`).
-/

namespace QualityGates

namespace Path

/-- A path that is written as its names, without empty ones and without `.`. -/
inductive IsNormal : Path → Prop where
  | relative (names : List String) (proper : ∀ name ∈ names, IsProper name) :
    IsNormal ⟨String.intercalate "/" names⟩
  | absolute (names : List String) (proper : ∀ name ∈ names, IsProper name) :
    IsNormal (ofNames names)

variable {p q root : Path} {name : String} {names rest : List String}

/-- Joined names do not start with a separator. -/
theorem isAbsolute_intercalate (proper : ∀ name ∈ names, IsProper name) :
    isAbsolute ⟨String.intercalate "/" names⟩ = false := by
  cases names with
  | nil => rfl
  | cons name names =>
    have first := (List.forall_mem_cons.mp proper).1
    have starts : (String.intercalate "/" (name :: names)).toList.head? = name.toList.head? := by
      rw [String.toList_intercalate, List.map_cons]
      cases names with
      | nil => rw [List.map_nil, List.intercalate_singleton]
      | cons next names =>
        rw [List.map_cons, List.intercalate_cons_cons, List.append_assoc,
          List.head?_append_of_ne_nil _ first.ne_nil]
    have alone := first.isAbsolute_eq
    unfold isAbsolute at alone ⊢
    rw [starts, alone]

/-- Relative paths are joined to a path behind one and the same text. -/
theorem exists_join_eq (p : Path) :
    ∃ lead : String, ∀ q : Path, q.isAbsolute = false → p.join q = ⟨lead ++ q.text⟩ := by
  unfold join
  by_cases whole : (p.text.isEmpty || p.endsOpen) = true
  · refine ⟨p.text, fun q relative => ?_⟩
    rw [relative, if_neg Bool.false_ne_true, if_pos whole]
  · refine ⟨p.text ++ "/", fun q relative => ?_⟩
    rw [relative, if_neg Bool.false_ne_true, if_neg whole]

/-- A relative path is joined to one that ends in a name behind a separator. -/
theorem join_of_ends_in_name {front : String} (proper : IsProper name)
    (relative : q.isAbsolute = false) :
    join ⟨front ++ name⟩ q = ⟨front ++ name ++ "/" ++ q.text⟩ := by
  have present : (front ++ name).isEmpty = false := by
    rw [← Bool.not_eq_true, String.isEmpty_iff, ← String.toList_eq_nil_iff, String.toList_append]
    exact List.append_ne_nil_of_right_ne_nil _ proper.ne_nil
  have closed : endsOpen ⟨front ++ name⟩ = false := by
    unfold endsOpen
    rw [String.toList_append, List.getLast?_append_of_ne_nil _ proper.ne_nil,
      beq_eq_false_iff_ne]
    exact fun last => proper.whole (List.mem_of_getLast? last)
  unfold join
  rw [relative, if_neg Bool.false_ne_true, present, closed, Bool.or_false,
    if_neg Bool.false_ne_true]

/-- Joining a name and then a relative path is joining the two with a separator between them. -/
theorem join_child (proper : IsProper name) (relative : q.isAbsolute = false) :
    (p.child name).join q = p.join ⟨name ++ "/" ++ q.text⟩ := by
  obtain ⟨lead, joins⟩ := exists_join_eq p
  have starts : isAbsolute ⟨name ++ "/" ++ q.text⟩ = false := by
    have alone := proper.isAbsolute_eq
    unfold isAbsolute at alone ⊢
    rwa [String.append_assoc, String.toList_append, List.head?_append_of_ne_nil _ proper.ne_nil]
  unfold child
  rw [joins ⟨name⟩ proper.isAbsolute_eq, joins _ starts, join_of_ends_in_name proper relative,
    String.append_assoc, String.append_assoc, String.append_assoc]

/-- Joining names at once leads where joining them one by one does. -/
theorem join_intercalate (present : names ≠ []) (proper : ∀ name ∈ names, IsProper name) :
    p.join ⟨String.intercalate "/" names⟩ = names.foldl child p := by
  induction names generalizing p with
  | nil => exact absurd rfl present
  | cons name names ih =>
    rw [List.forall_mem_cons] at proper
    cases names with
    | nil => rw [String.intercalate_singleton]; rfl
    | cons next names =>
      rw [List.foldl_cons, ← ih (List.cons_ne_nil next names) proper.2,
        join_child proper.1 (isAbsolute_intercalate proper.2), String.intercalate_cons_cons]

/-- A separator at the end of a path makes no difference to its components. -/
theorem components_separator (present : p.text.toList ≠ []) :
    components ⟨p.text ++ "/"⟩ = p.components := by
  have starts : isAbsolute ⟨p.text ++ "/"⟩ = p.isAbsolute := by
    unfold isAbsolute
    rw [String.toList_append, List.head?_append_of_ne_nil _ present]
  have parts : parts ⟨p.text ++ "/"⟩ = p.parts ++ [[]] := by
    unfold parts
    rw [String.toList_append]
    exact Text.pieces_append_mark p.text.toList []
  have names : names ⟨p.text ++ "/"⟩ = p.names := by
    unfold names
    rw [parts, List.filter_append]
    exact congrArg _ (List.append_nil _)
  have filled : p.parts ≠ [] := Text.pieces_ne_nil _ _
  unfold components
  rw [starts, names, parts, List.head?_append_of_ne_nil _ filled]

/-- Joining no name at all makes no difference to the components of a path. -/
theorem components_join_empty (p : Path) : (p.join ⟨""⟩).components = p.components := by
  have relative : isAbsolute ⟨""⟩ = false := rfl
  unfold join
  rw [relative, if_neg Bool.false_ne_true, String.append_empty, String.append_empty]
  split
  · rfl
  · rename_i parted
    rw [Bool.or_eq_true, not_or, String.isEmpty_iff, ← String.toList_eq_nil_iff] at parted
    exact components_separator parted.1

/-- The components of a path joined to a root stand behind those of the root. -/
theorem components_join (proper : ∀ name ∈ names, IsProper name) :
    (root.join ⟨String.intercalate "/" names⟩).components = root.components ++ names := by
  cases names with
  | nil => rw [String.intercalate_nil, components_join_empty, List.append_nil]
  | cons name names =>
    rw [join_intercalate (List.cons_ne_nil name names) proper, components_below proper]

/-- The components of a relative path are its names. -/
theorem components_intercalate (proper : ∀ name ∈ names, IsProper name) :
    components ⟨String.intercalate "/" names⟩ = names := by
  have joined : join ⟨""⟩ ⟨String.intercalate "/" names⟩ = ⟨String.intercalate "/" names⟩ := by
    unfold join
    rw [isAbsolute_intercalate proper, if_neg Bool.false_ne_true]
    exact congrArg Path.mk String.empty_append
  rw [← joined, components_join proper]
  rfl

/-- The components of an absolute path are the root and its names. -/
theorem components_ofNames (proper : ∀ name ∈ names, IsProper name) :
    (ofNames names).components = "/" :: names := by
  have joined : ofNames names = join ⟨"/"⟩ ⟨String.intercalate "/" names⟩ := by
    unfold join
    rw [isAbsolute_intercalate proper, if_neg Bool.false_ne_true]
    rfl
  rw [joined, components_join proper]
  rfl

/-- Seen from a root, a path with components behind those of the root is these, joined. -/
theorem relativeTo_of_components (split : p.components = root.components ++ rest) :
    root.relativeTo p = String.intercalate "/" rest := by
  unfold relativeTo below
  rw [split, List.isPrefixOf?_eq_some_iff_append_eq.mpr rfl, Option.getD_some]

/-- Seen from a root, a path that does not lie below it is all of its components, joined. -/
theorem relativeTo_of_outside (outside : ¬ root.components <+: p.components) :
    root.relativeTo p = String.intercalate "/" p.components := by
  have none : root.components.isPrefixOf? p.components = none := by
    rw [Option.eq_none_iff_forall_not_mem]
    intro rest member
    exact outside ⟨rest, List.isPrefixOf?_eq_some_iff_append_eq.mp member⟩
  unfold relativeTo below
  rw [none, Option.getD_none]

/-- The text of a path that is joined from its components: the root is written `/`, so a second
separator stands behind it if a name follows. -/
theorem intercalate_components (normal : p.IsNormal) :
    String.intercalate "/" p.components =
      if p.isAbsolute = true ∧ p.text ≠ "/" then "/" ++ p.text else p.text := by
  cases normal with
  | relative names proper =>
    rw [components_intercalate proper, isAbsolute_intercalate proper,
      if_neg fun absolute => Bool.false_ne_true absolute.1]
  | absolute names proper =>
    rw [components_ofNames proper]
    cases names with
    | nil => rfl
    | cons name names =>
      have longer : (ofNames (name :: names)).text ≠ "/" := by
        intro same
        have empty : String.intercalate "/" (name :: names) = "" :=
          String.append_right_inj "/" |>.mp same
        have none := components_intercalate proper
        rw [empty] at none
        cases none
      rw [if_pos ⟨isAbsolute_ofNames _, longer⟩, String.intercalate_cons_cons, String.append_assoc]
      rfl

end Path

namespace Layout

/-- A path in normal form that lies below the root of a project is shown as its components behind
those of the root, and one that is joined to the root is shown as it was. A relative path that does
not lie below the root is shown as it is, and so is the root of the file tree; every other absolute
path is shown with one more separator in front. -/
theorem relative_exact (l : Layout) :
    (∀ p rest, p.IsNormal → p.components = l.root.components ++ rest →
      l.relative p = String.intercalate "/" rest) ∧
    (∀ p, p.IsNormal → p.isAbsolute = false → l.relative (l.root.join p) = p.text) ∧
    ∀ p, p.IsNormal → ¬ l.root.components <+: p.components →
      l.relative p = if p.isAbsolute = true ∧ p.text ≠ "/" then "/" ++ p.text else p.text := by
  refine ⟨?_, ?_, ?_⟩
  · exact fun p rest _ split => Path.relativeTo_of_components split
  · intro p normal relative
    cases normal with
    | relative names proper => exact Path.relativeTo_of_components (Path.components_join proper)
    | absolute names proper =>
      exact absurd (Path.isAbsolute_ofNames names) (by rw [relative]; decide)
  · intro p normal outside
    exact (Path.relativeTo_of_outside outside).trans (Path.intercalate_components normal)

/-- A relative path is found again below a root, and a path outside of the root gets a separator. -/
theorem outside_shown : Path.IsNormal ⟨"docs/a.md"⟩ ∧ Path.IsNormal ⟨"/ab/c"⟩ ∧
    (ofRoot ⟨"/a/./"⟩).relative (Path.join ⟨"/a/./"⟩ ⟨"docs/a.md"⟩) = "docs/a.md" ∧
    (ofRoot ⟨"/a/./"⟩).relative ⟨"/ab/c"⟩ = "//ab/c" := by
  have document : Path.IsNormal ⟨"docs/a.md"⟩ :=
    .relative ["docs", "a.md"] (by simpa using ⟨⟨by decide, by decide⟩, by decide, by decide⟩)
  have other : Path.IsNormal ⟨"/ab/c"⟩ :=
    .absolute ["ab", "c"] (by simpa using ⟨⟨by decide, by decide⟩, by decide, by decide⟩)
  obtain ⟨_, joined, outside⟩ := relative_exact (ofRoot ⟨"/a/./"⟩)
  exact ⟨document, other, joined _ document rfl, outside _ other (by decide)⟩

/-- Absolute paths outside of a project are not shown unchanged. -/
theorem not_relative_unchanged : ¬ ∀ (l : Layout) (p : Path), p.IsNormal →
    ¬ l.root.components <+: p.components → l.relative p = p.text := by
  intro unchanged
  have other : Path.IsNormal ⟨"/a/b"⟩ :=
    .absolute ["a", "b"] (by simpa using ⟨⟨by decide, by decide⟩, by decide, by decide⟩)
  exact absurd (unchanged (ofRoot ⟨"/r"⟩) ⟨"/a/b"⟩ other (by decide)) (by decide)

end Layout
end QualityGates
