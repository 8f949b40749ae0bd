/-!
# The first of a list

The first member of a list that a property holds of. There is one exactly where the property holds
of some member, and then it is the only one.
-/

namespace QualityGates

variable {α : Type} {p : α → Prop} {xs : List α} {x y : α}

/-- The first member of a list that a property holds of. -/
def IsFirst (p : α → Prop) (xs : List α) (x : α) : Prop :=
  ∃ before after, xs = before ++ x :: after ∧ p x ∧ ∀ earlier ∈ before, ¬ p earlier

/-- Nothing is first in an empty list. -/
theorem not_isFirst_nil : ¬ IsFirst p [] x := by
  rintro ⟨before, after, split, _⟩
  cases before <;> cases split

/-- The first member is the head where the property holds of it, and behind it otherwise. -/
theorem isFirst_cons : IsFirst p (x :: xs) y ↔ (p x ∧ x = y) ∨ (¬ p x ∧ IsFirst p xs y) := by
  constructor
  · rintro ⟨before, after, split, holds, not⟩
    cases before with
    | nil =>
      obtain ⟨rfl, _⟩ := List.cons.inj split
      exact .inl ⟨holds, rfl⟩
    | cons first before =>
      obtain ⟨rfl, rest⟩ := List.cons.inj split
      rw [List.forall_mem_cons] at not
      exact .inr ⟨not.1, before, after, rest, holds, not.2⟩
  · rintro (⟨holds, rfl⟩ | ⟨here, before, after, rfl, holds, not⟩)
    · exact ⟨[], xs, rfl, holds, nofun⟩
    · exact ⟨x :: before, after, rfl, holds, List.forall_mem_cons.mpr ⟨here, not⟩⟩

/-- A property that holds of a member holds of a first one. -/
theorem exists_isFirst (found : ∃ x ∈ xs, p x) : ∃ x, IsFirst p xs x := by
  induction xs with
  | nil =>
    obtain ⟨x, member, _⟩ := found
    cases member
  | cons head xs ih =>
    by_cases here : p head
    · exact ⟨head, isFirst_cons.mpr (.inl ⟨here, rfl⟩)⟩
    · have later : ∃ x ∈ xs, p x := by
        obtain ⟨x, member, holds⟩ := found
        rcases List.mem_cons.mp member with rfl | member
        · exact absurd holds here
        · exact ⟨x, member, holds⟩
      obtain ⟨x, first⟩ := ih later
      exact ⟨x, isFirst_cons.mpr (.inr ⟨here, first⟩)⟩

/-- A property holds of the first member that it holds of. -/
theorem IsFirst.holds (first : IsFirst p xs x) : p x := by
  obtain ⟨_, _, _, holds, _⟩ := first
  exact holds

/-- The first member that a property holds of is a member that it holds of. -/
theorem IsFirst.exists_mem (first : IsFirst p xs x) : ∃ x ∈ xs, p x := by
  obtain ⟨before, after, rfl, holds, _⟩ := first
  exact ⟨x, List.mem_append_right _ List.mem_cons_self, holds⟩

/-- There is one first member that a property holds of. -/
theorem IsFirst.unique (first : IsFirst p xs x) (first' : IsFirst p xs y) : x = y := by
  induction xs with
  | nil => exact absurd first not_isFirst_nil
  | cons head xs ih =>
    rcases isFirst_cons.mp first with ⟨holds, rfl⟩ | ⟨not, later⟩
    · rcases isFirst_cons.mp first' with ⟨_, rfl⟩ | ⟨not', _⟩
      · rfl
      · exact absurd holds not'
    · rcases isFirst_cons.mp first' with ⟨here, _⟩ | ⟨_, later'⟩
      · exact absurd here not
      · exact ih later later'

end QualityGates
