/-!
# Parts of a text

Whether a text occurs in another one, as a run of consecutive characters.
-/

namespace QualityGates.Text

/-- Whether `part` occurs in a list of characters. -/
def isPart (part : List Char) : List Char → Bool
  | [] => part.isEmpty
  | c :: rest => part.isPrefixOf (c :: rest) || isPart part rest

/-- A part stands between two other parts. -/
theorem isPart_iff {part whole : List Char} :
    isPart part whole = true ↔ ∃ before after, whole = before ++ (part ++ after) := by
  induction whole with
  | nil =>
    constructor
    · intro h
      have : part = [] := by simpa [isPart] using h
      exact ⟨[], [], by simp [this]⟩
    · rintro ⟨before, after, h⟩
      have : part = [] := by simp_all
      simp [isPart, this]
  | cons c rest ih =>
    simp only [isPart, Bool.or_eq_true, List.isPrefixOf_iff_prefix, ih]
    constructor
    · rintro (⟨after, h⟩ | ⟨before, after, h⟩)
      · exact ⟨[], after, by simp [h]⟩
      · exact ⟨c :: before, after, by simp [h]⟩
    · rintro ⟨before, after, h⟩
      cases before with
      | nil => exact .inl ⟨after, by simpa using h.symm⟩
      | cons d before =>
        simp only [List.cons_append, List.cons.injEq] at h
        exact .inr ⟨before, after, h.2⟩

/-- Whether `part` occurs in `whole`. -/
def occursIn (part whole : String) : Bool :=
  isPart part.toList whole.toList

end QualityGates.Text
