import QualityGates.Text.Separated

/-!
# Pieces of a separated text

A text is cut at every mark, so cutting a text that was joined from pieces without the mark gives
the pieces back. Joining such pieces therefore loses nothing, and the pieces of a text are the only
texts without the mark that it is joined from (`pieces_eq_iff`).
-/

namespace QualityGates.Text

variable {mark : Char}

/-- A text without the mark is one piece. -/
theorem pieces_of_not_mem {cs : List Char} (absent : mark ∉ cs) : pieces mark cs = [cs] := by
  induction cs with
  | nil => rfl
  | cons c cs ih =>
    rw [List.mem_cons, not_or] at absent
    rw [pieces, if_neg (Ne.symm absent.1), ih absent.2]

/-- There is always a piece. -/
theorem pieces_ne_nil (mark : Char) (cs : List Char) : pieces mark cs ≠ [] := by
  cases cs with
  | nil => exact List.cons_ne_nil _ _
  | cons c cs =>
    rw [pieces]
    by_cases here : c = mark
    · rw [if_pos here]
      exact List.cons_ne_nil _ _
    · rw [if_neg here]
      cases pieces mark cs <;> exact List.cons_ne_nil _ _

/-- A mark cuts a text in two. -/
theorem pieces_append_mark (before after : List Char) :
    pieces mark (before ++ mark :: after) = pieces mark before ++ pieces mark after := by
  induction before with
  | nil => rw [List.nil_append, pieces.eq_2, if_pos rfl, pieces, List.singleton_append]
  | cons c before ih =>
    rw [List.cons_append, pieces, pieces, ih]
    by_cases here : c = mark
    · rw [if_pos here, if_pos here, List.cons_append]
    · rw [if_neg here, if_neg here]
      cases cut : pieces mark before with
      | nil => exact absurd cut (pieces_ne_nil mark before)
      | cons piece more => rfl

/-- Cutting what was joined from pieces without the mark gives the pieces. -/
theorem pieces_intercalate {texts : List (List Char)} (present : texts ≠ [])
    (absent : ∀ text ∈ texts, mark ∉ text) : pieces mark ([mark].intercalate texts) = texts := by
  induction texts with
  | nil => exact absurd rfl present
  | cons text texts ih =>
    rw [List.forall_mem_cons] at absent
    have first : pieces mark text = [text] := pieces_of_not_mem absent.1
    cases texts with
    | nil => rw [List.intercalate_singleton, first]
    | cons next texts =>
      have rest := ih (List.cons_ne_nil next texts) absent.2
      rw [List.intercalate_cons_cons, List.append_assoc, List.singleton_append,
        pieces_append_mark, first, rest, List.singleton_append]

/-- Pieces without the mark can be told from what they are joined to. -/
theorem intercalate_inj {texts others : List (List Char)} (present : texts ≠ [])
    (present' : others ≠ []) (absent : ∀ text ∈ texts, mark ∉ text)
    (absent' : ∀ text ∈ others, mark ∉ text) :
    [mark].intercalate texts = [mark].intercalate others ↔ texts = others := by
  constructor
  · intro same
    have cut := congrArg (pieces mark) same
    rw [pieces_intercalate present absent, pieces_intercalate present' absent'] at cut
    exact cut
  · exact fun same => congrArg _ same

/-- A character in front of a text is the first one of its first piece, or ends an empty one. -/
theorem pieces_cons (c : Char) (cs : List Char) : pieces mark (c :: cs) =
    if c = mark then [] :: pieces mark cs
    else (c :: (pieces mark cs).headD []) :: (pieces mark cs).tail := by
  rw [pieces]
  cases cut : pieces mark cs with
  | nil => exact absurd cut (pieces_ne_nil mark cs)
  | cons piece more => rfl

/-- No piece holds the mark. -/
theorem not_mem_of_mem_pieces {cs piece : List Char} (member : piece ∈ pieces mark cs) :
    mark ∉ piece := by
  induction cs generalizing piece with
  | nil =>
    rw [pieces, List.mem_singleton] at member
    rw [member]
    exact List.not_mem_nil
  | cons c cs ih =>
    cases cut : pieces mark cs with
    | nil => exact absurd cut (pieces_ne_nil mark cs)
    | cons first more =>
      have later : ∀ text ∈ first :: more, mark ∉ text := fun _ there => ih (cut ▸ there)
      rw [pieces_cons, cut] at member
      by_cases here : c = mark
      · rw [if_pos here, List.mem_cons] at member
        rcases member with rfl | member
        · exact List.not_mem_nil
        · exact later piece member
      · rw [if_neg here, List.mem_cons] at member
        rcases member with rfl | member
        · exact List.not_mem_cons_of_ne_of_not_mem (Ne.symm here) (later first List.mem_cons_self)
        · exact later piece (List.mem_cons_of_mem first member)

/-- Joining the pieces of a text gives the text. -/
theorem intercalate_pieces (cs : List Char) : [mark].intercalate (pieces mark cs) = cs := by
  induction cs with
  | nil => rfl
  | cons c cs ih =>
    cases cut : pieces mark cs with
    | nil => exact absurd cut (pieces_ne_nil mark cs)
    | cons first more =>
      rw [cut] at ih
      rw [pieces_cons, cut]
      by_cases here : c = mark
      · rw [if_pos here, List.intercalate_cons_cons, ih, here]
        rfl
      · rw [if_neg here, ← ih]
        cases more with
        | nil => rw [List.headD_cons, List.tail_cons, List.intercalate_singleton,
            List.intercalate_singleton]
        | cons next more =>
          rw [List.headD_cons, List.tail_cons, List.intercalate_cons_cons,
            List.intercalate_cons_cons, List.append_assoc, List.cons_append, List.append_assoc]

/-- The pieces of a text are the texts without the mark that it is joined from. -/
theorem pieces_eq_iff {cs : List Char} {texts : List (List Char)} : pieces mark cs = texts ↔
    texts ≠ [] ∧ cs = [mark].intercalate texts ∧ ∀ text ∈ texts, mark ∉ text := by
  constructor
  · rintro rfl
    exact ⟨pieces_ne_nil mark cs, (intercalate_pieces cs).symm, fun _ => not_mem_of_mem_pieces⟩
  · rintro ⟨present, rfl, absent⟩
    exact pieces_intercalate present absent

end QualityGates.Text
