import QualityGates.Proofs.Xml.Head

/-!
# Element trees as they are written

A forest is what a document holds, or an element between its tags: texts and elements in order. An
element without content is written with one tag or with two. The lemmas here say which events come
from the pieces that a forest is written with.
-/

namespace QualityGates.Xml

/-- Texts and elements in the order of a document. -/
inductive Forest where
  | nil
  | text (content : String) (rest : Forest)
  /-- An element that is written with one tag. -/
  | single (head : Head) (rest : Forest)
  /-- An element that is written with two tags. -/
  | nest (head : Head) (children rest : Forest)
  deriving DecidableEq, Repr, Inhabited

namespace Forest

/-- What a forest is written as, with texts and values escaped. -/
def written : Forest → List Char
  | nil => []
  | text content rest => escape content.toList ++ rest.written
  | single head rest => '<' :: (head.content ++ '/' :: '>' :: rest.written)
  | nest head children rest =>
    '<' :: (head.content ++ '>' ::
      (children.written ++ '<' :: '/' :: (head.name.toList ++ '>' :: rest.written)))

/-- The document that a forest is written as. -/
def document (forest : Forest) : String :=
  String.ofList forest.written

/-- All names are proper ones, and no element repeats an attribute. -/
def WellFormed : Forest → Prop
  | nil => True
  | text _ rest => rest.WellFormed
  | single head rest => head.WellFormed ∧ rest.WellFormed
  | nest head children rest => head.WellFormed ∧ children.WellFormed ∧ rest.WellFormed

/-- Whether a forest is well-formed can be computed. -/
def decideWellFormed : (forest : Forest) → Decidable forest.WellFormed
  | nil => .isTrue trivial
  | text _ rest => rest.decideWellFormed
  | single _ rest =>
    have := rest.decideWellFormed
    instDecidableAnd
  | nest _ children rest =>
    have := children.decideWellFormed
    have := rest.decideWellFormed
    instDecidableAnd

instance (forest : Forest) : Decidable forest.WellFormed :=
  forest.decideWellFormed

/-- The elements that stand directly in a forest. -/
def heads : Forest → List Head
  | nil => []
  | text _ rest => rest.heads
  | single head rest => head :: rest.heads
  | nest head _ rest => head :: rest.heads

end Forest

variable {head : Head} {opened : List (List Char)} {cs more : List Char} {name : String}

/-! ## Markup -/

/-- The content of a tag that is written does not start with a sign of other markup. -/
theorem Head.WellFormed.content_cons (sound : head.WellFormed) :
    ∃ first rest, head.content = first :: rest ∧ first ≠ '!' ∧ first ≠ '?' ∧ first ≠ '/' := by
  obtain ⟨first, rest, written⟩ := List.exists_cons_of_ne_nil sound.name.present
  have isFirst := sound.name.chars first (by rw [written]; exact List.mem_cons_self)
  obtain ⟨_, _, slash, _, _, _, bang, mark, _⟩ := ne_of_isNameChar isFirst
  refine ⟨first, rest ++ head.attributes.flatMap Head.attributeText, ?_, bang, mark, slash⟩
  rw [Head.content, written, List.cons_append]

/-- Markup that starts like a tag is read as one. -/
theorem readMarkup_tag {first : Char} (bang : first ≠ '!') (mark : first ≠ '?')
    (slash : first ≠ '/') : readMarkup opened (first :: cs) =
      match splitTag? none (first :: cs) with
      | some (content, rest) =>
        .ok ((openElement opened content).1, (openElement opened content).2, rest)
      | none => .error .openTag := by
  unfold readMarkup
  split
  case h_1 h => cases h
  case h_2 h => cases h; exact absurd rfl bang
  case h_3 h => cases h; exact absurd rfl mark
  case h_4 h => cases h; exact absurd rfl slash
  case h_5 => cases splitTag? none (first :: cs) <;> rfl

/-- A written attribute ends with a quotation mark. -/
theorem Head.attributeText_concat (item : String × String) : attributeText item =
    (' ' :: (item.1.toList ++ '=' :: '"' :: escape item.2.toList)) ++ ['"'] := by
  rw [attributeText, List.cons_append, List.append_assoc, List.cons_append, List.cons_append]

/-- The content of a tag that is written does not end in a slash. -/
theorem Head.WellFormed.getLast?_content (sound : head.WellFormed) :
    head.content.getLast? ≠ some '/' := by
  intro ends
  unfold Head.content at ends
  rcases List.eq_nil_or_concat head.attributes with none | ⟨before, last, split⟩
  · rw [none, List.flatMap_nil, List.append_nil] at ends
    have member := List.mem_of_getLast? ends
    obtain ⟨_, _, slash, _⟩ := ne_of_isNameChar (sound.name.chars '/' member)
    exact slash rfl
  · rw [split, List.concat_eq_append, List.flatMap_append, List.flatMap_singleton,
      Head.attributeText_concat, ← List.append_assoc, ← List.append_assoc,
      List.getLast?_concat] at ends
    exact absurd (Option.some.inj ends) (by decide)

/-- The tag of an element with content opens it. -/
theorem Head.WellFormed.readMarkup_opening (sound : head.WellFormed) :
    readMarkup opened (head.content ++ '>' :: more) =
      .ok (.opening head.tag, head.name.toList :: opened, more) := by
  have ended : splitTag? none (head.content ++ '>' :: more) = some (head.content, more) := by
    rw [sound.splitTag?_content, splitTag?, if_pos rfl]
    exact congrArg (fun cs => some (cs, more)) (List.append_nil head.content)
  have opens : openElement opened head.content =
      (.opening head.tag, head.name.toList :: opened) := by
    rw [← sound.tag_name]
    unfold openElement
    split
    · rename_i slash
      exact absurd slash sound.getLast?_content
    · rfl
  obtain ⟨first, rest, written, bang, mark, slash⟩ := sound.content_cons
  rw [written, List.cons_append] at ended ⊢
  rw [readMarkup_tag bang mark slash, ended, ← written]
  dsimp only
  rw [opens]

/-- The tag of an element without content stands for all of it. -/
theorem Head.WellFormed.readMarkup_single (sound : head.WellFormed) :
    readMarkup opened (head.content ++ '/' :: '>' :: more) =
      .ok (.single head.tag, opened, more) := by
  have ended : splitTag? none (head.content ++ '/' :: '>' :: more) =
      some (head.content ++ ['/'], more) := by
    rw [sound.splitTag?_content, splitTag?_cons (by decide) (by decide) (by decide), splitTag?,
      if_pos rfl]
    rfl
  have opens : openElement opened (head.content ++ ['/']) = (.single head.tag, opened) := by
    unfold openElement
    rw [List.getLast?_concat, List.dropLast_concat]
    rfl
  obtain ⟨first, rest, written, bang, mark, slash⟩ := sound.content_cons
  rw [written, List.cons_append] at ended ⊢
  rw [readMarkup_tag bang mark slash, ended, ← written]
  dsimp only
  rw [opens]

/-- A closing tag gives its name without any blanks. -/
theorem closingName_eq (noSpace : ∀ c ∈ cs, isSpace c = false) : closingName cs = cs := by
  have trimmed : trimBack cs = cs := by
    have kept : cs.reverse.dropWhile isSpace = cs.reverse := by
      cases backwards : cs.reverse with
      | nil => rfl
      | cons c rest =>
        have member : c ∈ cs := List.mem_reverse.mp (by rw [backwards]; exact List.mem_cons_self)
        rw [List.dropWhile_cons_of_neg (by rw [noSpace c member]; exact Bool.false_ne_true)]
    rw [trimBack, kept, List.reverse_reverse]
  unfold closingName
  rw [trimmed]
  exact ite_self _

/-- Markup that starts with a slash closes an element. -/
theorem readMarkup_slash : readMarkup opened ('/' :: cs) =
    match splitTag? none cs with
    | some (content, rest) =>
      (closeElement opened (closingName content)).map fun outer => (.closing, outer, rest)
    | none => .error .openTag := rfl

/-- A name that a closing tag can give, without blanks and quotation marks. -/
def IsClosable (name : List Char) : Prop :=
  ∀ c ∈ name, isSpace c = false ∧ c ≠ '>' ∧ c ≠ '"' ∧ c ≠ '\''

instance (name : List Char) : Decidable (IsClosable name) :=
  List.decidableBAll (fun c => isSpace c = false ∧ c ≠ '>' ∧ c ≠ '"' ∧ c ≠ '\'') name

/-- An element with a plain name can be closed. -/
theorem IsPlainName.closable (proper : IsPlainName name) : IsClosable name.toList :=
  fun c member => ⟨(ne_of_isNameChar (proper.chars c member)).1, proper.plain c member⟩

/-- A closing tag closes the element with its name. -/
theorem readMarkup_closing (closable : IsClosable cs) :
    readMarkup (cs :: opened) ('/' :: (cs ++ '>' :: more)) = .ok (.closing, opened, more) := by
  have ended : splitTag? none (cs ++ '>' :: more) = some (cs, more) := by
    rw [splitTag?_append fun c member => (closable c member).2, splitTag?, if_pos rfl]
    exact congrArg (fun first => some (first, more)) (List.append_nil cs)
  rw [readMarkup_slash, ended]
  dsimp only
  rw [closingName_eq fun c member => (closable c member).1, closeElement, if_pos rfl]
  rfl

/-! ## Events -/

/-- The events of the markup that a text starts with. -/
def markupEvents (opened : List (List Char)) (cs : List Char) : List (Except Fault Event) :=
  match cs with
  | [] => []
  | _ :: markup =>
    match readMarkup opened markup with
    | .error fault => [.error fault]
    | .ok (event, inner, rest) => .ok event :: eventsFrom inner rest

/-- The events of a text are those of what stands in front of markup, and those of the markup. -/
theorem eventsFrom_eq (opened : List (List Char)) (cs : List Char) :
    eventsFrom opened cs = textEvents (leadingText cs) ++
      markupEvents opened (cs.dropWhile fun c => c != '<') := by
  rw [eventsFrom]
  congr 1
  unfold markupEvents
  split
  · rename_i h
    rw [h]
  · rename_i markup h
    rw [h]
    dsimp only
    split
    · rename_i fault read
      rw [read]
    · rename_i event inner rest read
      rw [read]

/-- Behind a bracket there is markup. -/
theorem eventsFrom_markup {inner : List (List Char)} {event : Event}
    (read : readMarkup opened cs = .ok (event, inner, more)) :
    eventsFrom opened ('<' :: cs) = .ok event :: eventsFrom inner more := by
  have noText : textEvents (leadingText ('<' :: cs)) = [] := rfl
  have markup : ('<' :: cs).dropWhile (fun c => c != '<') = '<' :: cs := rfl
  rw [eventsFrom_eq, noText, markup, List.nil_append, markupEvents, read]

/-- Behind a bracket that starts no markup there is nothing but the fault. -/
theorem eventsFrom_fault {fault : Fault} (read : readMarkup opened cs = .error fault) :
    eventsFrom opened ('<' :: cs) = [.error fault] := by
  have noText : textEvents (leadingText ('<' :: cs)) = [] := rfl
  have markup : ('<' :: cs).dropWhile (fun c => c != '<') = '<' :: cs := rfl
  rw [eventsFrom_eq, noText, markup, List.nil_append, markupEvents, read]

end QualityGates.Xml
