import Mathlib.Data.List.Basic
import QualityGates.Path
import QualityGates.Proofs.Text.Separated

/-!
# Paths of names inside a directory

The path of a name inside a directory has one part more than that of the directory, so its
components are those of the directory with the name behind them. This holds for names that can stand
in a directory: they are not empty and hold no separator. Seen from the directory, a path below it
is therefore written as the names that lead there (`relativeTo_foldl_child`), and these can be told
from what is written (`names_eq_of_intercalate`).
-/

namespace QualityGates

namespace Path

/-- A name that can stand in a directory. -/
structure IsProper (name : String) : Prop where
  /-- The name is a component wherever it stands. -/
  isName : isName name.toList = true
  /-- The name holds no separator. -/
  whole : '/' ∉ name.toList

variable {p : Path} {name : String} {names : List String}

/-- A proper name is not empty. -/
theorem IsProper.ne_nil (proper : IsProper name) : name.toList ≠ [] := by
  intro empty
  have isName := proper.isName
  rw [empty] at isName
  cases isName

/-- A proper name does not start at the root. -/
theorem IsProper.isAbsolute_eq (proper : IsProper name) : isAbsolute ⟨name⟩ = false := by
  have whole := proper.whole
  unfold isAbsolute
  cases cs : name.toList with
  | nil => rfl
  | cons c cs =>
    rw [cs, List.mem_cons, not_or] at whole
    rw [List.head?_cons]
    simpa using Ne.symm whole.1

/-- The text of a child is that of the directory, a separator if there is none yet, and the name. -/
theorem child_text (proper : IsProper name) (present : p.text.toList ≠ []) :
    (p.child name).text.toList =
      p.text.toList ++ (if p.endsOpen then [] else ['/']) ++ name.toList := by
  have filled : p.text.isEmpty = false := by
    rw [← Bool.not_eq_true, String.isEmpty_iff]
    exact fun empty => present (by rw [empty]; rfl)
  unfold child join
  rw [proper.isAbsolute_eq, filled, Bool.false_or, if_neg Bool.false_ne_true]
  by_cases isOpen : p.endsOpen = true
  · rw [if_pos isOpen, if_pos isOpen, List.append_nil, String.toList_append]
  · rw [if_neg isOpen, if_neg isOpen, String.toList_append, String.toList_append]
    rfl

/-- A child has the parts of the directory and the name behind them; the empty part behind a
separator at the end is the one that the name fills. -/
theorem parts_child (proper : IsProper name) (present : p.text.toList ≠ []) :
    ∃ lead, lead ≠ [] ∧ (p.parts = lead ∨ p.parts = lead ++ [[]]) ∧
      (p.child name).parts = lead ++ [name.toList] := by
  unfold parts
  rw [child_text proper present]
  by_cases isOpen : p.endsOpen = true
  · unfold endsOpen at isOpen
    rw [beq_iff_eq, List.getLast?_eq_some_iff] at isOpen
    obtain ⟨before, ends⟩ := isOpen
    have still : p.endsOpen = true := by
      unfold endsOpen
      rw [ends, List.getLast?_concat]
      rfl
    refine ⟨Text.pieces '/' before, Text.pieces_ne_nil _ _, .inr ?_, ?_⟩
    · rw [ends, Text.pieces_append_mark]
      rfl
    · rw [if_pos still, ends, List.append_nil, List.append_assoc, List.singleton_append,
        Text.pieces_append_mark, Text.pieces_of_not_mem proper.whole]
  · refine ⟨Text.pieces '/' p.text.toList, Text.pieces_ne_nil _ _, .inl rfl, ?_⟩
    rw [if_neg isOpen, List.append_assoc, List.singleton_append, Text.pieces_append_mark,
      Text.pieces_of_not_mem proper.whole]

/-- The text of a child is not empty. -/
theorem child_present (proper : IsProper name) (present : p.text.toList ≠ []) :
    (p.child name).text.toList ≠ [] := by
  rw [child_text proper present]
  exact List.append_ne_nil_of_right_ne_nil _ proper.ne_nil

/-- A child starts where the directory does. -/
theorem isAbsolute_child (proper : IsProper name) (present : p.text.toList ≠ []) :
    (p.child name).isAbsolute = p.isAbsolute := by
  unfold isAbsolute
  rw [child_text proper present, List.append_assoc, List.head?_append_of_ne_nil _ present]

/-- A character of the text of a child stands in the directory or in the name, or separates them. -/
theorem mem_child (proper : IsProper name) (present : p.text.toList ≠ []) {c : Char}
    (member : c ∈ (p.child name).text.toList) :
    c ∈ p.text.toList ∨ c = '/' ∨ c ∈ name.toList := by
  rw [child_text proper present, List.mem_append, List.mem_append] at member
  rcases member with (before | between) | behind
  · exact .inl before
  · by_cases isOpen : p.endsOpen = true
    · rw [if_pos isOpen] at between
      exact absurd between List.not_mem_nil
    · rw [if_neg isOpen, List.mem_singleton] at between
      exact .inr (.inl between)
  · exact .inr (.inr behind)

/-- The name of a child is the last of its names. -/
theorem names_child (proper : IsProper name) (present : p.text.toList ≠ []) :
    (p.child name).names = p.names ++ [name] := by
  obtain ⟨lead, _, parent, child⟩ := parts_child proper present
  have kept : p.parts.filter Path.isName = lead.filter Path.isName := by
    rcases parent with same | behind
    · rw [same]
    · rw [behind, List.filter_append]
      exact List.append_nil _
  unfold names
  rw [child, kept, List.filter_append, List.map_append, List.filter_cons_of_pos proper.isName,
    List.filter_nil, List.map_singleton, String.ofList_toList]

/-- The components of a child are those of the directory and its name. -/
theorem components_child (proper : IsProper name) (present : p.text.toList ≠ []) :
    (p.child name).components = p.components ++ [name] := by
  have first : (p.child name).parts.head? = p.parts.head? := by
    obtain ⟨lead, filled, parent, child⟩ := parts_child proper present
    rw [child, List.head?_append_of_ne_nil _ filled]
    rcases parent with same | behind
    · rw [same]
    · rw [behind, List.head?_append_of_ne_nil _ filled]
  unfold components
  rw [isAbsolute_child proper present, first, names_child proper present]
  by_cases atRoot : p.isAbsolute = true
  · rw [if_pos atRoot, if_pos atRoot, List.cons_append]
  · rw [if_neg atRoot, if_neg atRoot]
    by_cases dotted : (p.parts.head? == some ['.']) = true
    · rw [if_pos dotted, if_pos dotted, List.cons_append]
    · rw [if_neg dotted, if_neg dotted]

/-- The text of a path below a directory is not empty. -/
theorem foldl_child_present (proper : ∀ name ∈ names, IsProper name)
    (present : p.text.toList ≠ []) : (names.foldl child p).text.toList ≠ [] := by
  induction names generalizing p with
  | nil => exact present
  | cons name names ih =>
    rw [List.forall_mem_cons] at proper
    exact ih proper.2 (child_present proper.1 present)

/-- The components of a path below a directory are those of the directory and the names below it. -/
theorem components_foldl_child (proper : ∀ name ∈ names, IsProper name)
    (present : p.text.toList ≠ []) :
    (names.foldl child p).components = p.components ++ names := by
  induction names generalizing p with
  | nil => exact (List.append_nil _).symm
  | cons name names ih =>
    rw [List.forall_mem_cons] at proper
    rw [List.foldl_cons, ih proper.2 (child_present proper.1 present),
      components_child proper.1 present, List.append_assoc, List.singleton_append]

/-- The names of a path below a directory end with the names below it. -/
theorem names_foldl_child (proper : ∀ name ∈ names, IsProper name)
    (present : p.text.toList ≠ []) : (names.foldl child p).names = p.names ++ names := by
  induction names generalizing p with
  | nil => exact (List.append_nil _).symm
  | cons name names ih =>
    rw [List.forall_mem_cons] at proper
    rw [List.foldl_cons, ih proper.2 (child_present proper.1 present),
      names_child proper.1 present, List.append_assoc, List.singleton_append]

/-- A path that is made from the root is absolute. -/
theorem isAbsolute_ofNames (names : List String) : (ofNames names).isAbsolute = true := by
  unfold isAbsolute ofNames
  rw [String.toList_append]
  rfl

/-- The components of a bare name are the name. -/
theorem components_name (proper : IsProper name) : components ⟨name⟩ = [name] := by
  have parts : parts ⟨name⟩ = [name.toList] := Text.pieces_of_not_mem proper.whole
  have undotted : (some name.toList == some ['.']) = false := by
    have isName := proper.isName
    unfold Path.isName at isName
    rw [Bool.and_eq_true, bne_iff_ne] at isName
    simpa using isName.2
  unfold components names
  rw [proper.isAbsolute_eq, if_neg Bool.false_ne_true, parts, List.head?_cons, undotted,
    if_neg Bool.false_ne_true, List.filter_cons_of_pos proper.isName, List.filter_nil,
    List.map_singleton, String.ofList_toList]

/-- Names lead behind the components of a directory, also when it has no text. -/
theorem components_below (proper : ∀ name ∈ names, IsProper name) :
    (names.foldl child p).components = p.components ++ names := by
  by_cases present : p.text.toList = []
  · -- Nothing is put in front of the first name when the directory has no text.
    have empty : p = ⟨""⟩ := congrArg Path.mk (String.toList_inj.mp present)
    rw [empty]
    cases names with
    | nil => rfl
    | cons name names =>
      rw [List.forall_mem_cons] at proper
      have first : (Path.mk "").child name = ⟨name⟩ := by
        unfold child join
        rw [proper.1.isAbsolute_eq, if_neg Bool.false_ne_true]
        exact congrArg Path.mk String.empty_append
      rw [List.foldl_cons, first, components_foldl_child proper.2 proper.1.ne_nil,
        components_name proper.1]
      rfl
  · exact components_foldl_child proper present

/-- Seen from a directory, a path below it is the names that lead there. -/
theorem below_foldl_child (proper : ∀ name ∈ names, IsProper name) :
    p.below (names.foldl child p) = names := by
  have rest : p.components.isPrefixOf? (p.components ++ names) = some names :=
    List.isPrefixOf?_eq_some_iff_append_eq.mpr rfl
  unfold Path.below
  rw [components_below proper, rest, Option.getD_some]

/-- Seen from a directory, a path below it is written as the names that lead there. -/
theorem relativeTo_foldl_child (proper : ∀ name ∈ names, IsProper name) :
    p.relativeTo (names.foldl child p) = String.intercalate "/" names := by
  unfold relativeTo
  rw [below_foldl_child proper]

/-- Names can be told from what they are joined to by separators. -/
theorem names_eq_of_intercalate {others : List String} (filled : names ≠ []) (filled' : others ≠ [])
    (proper : ∀ name ∈ names, IsProper name) (proper' : ∀ name ∈ others, IsProper name)
    (same : String.intercalate "/" names = String.intercalate "/" others) : names = others := by
  have texts := congrArg String.toList same
  rw [String.toList_intercalate, String.toList_intercalate] at texts
  have whole {names : List String} (proper : ∀ name ∈ names, IsProper name) :
      ∀ text ∈ names.map String.toList, '/' ∉ text := by
    intro text member
    obtain ⟨name, there, rfl⟩ := List.mem_map.mp member
    exact (proper name there).whole
  have split := (Text.intercalate_inj (by simpa using filled) (by simpa using filled')
    (whole proper) (whole proper')).mp texts
  exact List.map_injective_iff.mpr (fun _ _ => String.toList_inj.mp) split

end Path
end QualityGates
