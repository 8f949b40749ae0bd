import QualityGates.Proofs.Text.Blank
import QualityGates.Proofs.Xml.Forest

/-!
# Texts as they can be spelled

A text between tags can be spelled in many ways: a character stands for itself or is written as an
entity, by name or by number. A forest whose texts are given as they are spelled is read as one
event for each tag and one for each text that is not blank, as long as no two texts stand next to
each other.
-/

namespace QualityGates.Xml

/-- How a text can be spelled: a character other than `&` stands for itself, and an entity for the
character that it means. -/
inductive Spells : List Char → List Char → Prop where
  | nil : Spells [] []
  | plain {c : Char} {raw cs : List Char} (noAmp : c ≠ '&') (rest : Spells raw cs) :
    Spells (c :: raw) (c :: cs)
  | entity {name : List Char} {c : Char} {raw cs : List Char} (noAmp : '&' ∉ name)
    (noEnd : ';' ∉ name) (means : ∀ first last, entityChar first last name = .ok c)
    (rest : Spells raw cs) : Spells (('&' :: name ++ [';']) ++ raw) (c :: cs)

variable {raw cs blanks more : List Char} {c : Char} {opened : List (List Char)}

/-! ## Spelled texts -/

/-- Resolving the entities of a spelled text gives the text, wherever it stands. -/
theorem Spells.resolveFrom_eq (spells : Spells raw cs) (finish place : Nat) :
    resolveFrom finish place none raw = .ok cs := by
  induction spells generalizing place with
  | nil => rfl
  | plain noAmp rest ih =>
    rw [resolveFrom, if_neg noAmp, ih]
    rfl
  | @entity name c raw cs noAmp noEnd means rest ih =>
    rw [resolveFrom_entity name noAmp noEnd means, ih]
    rfl

/-- A text in which no entity starts spells itself. -/
theorem spells_self (plain : '&' ∉ cs) : Spells cs cs := by
  induction cs with
  | nil => exact .nil
  | cons c cs ih =>
    rw [List.mem_cons, not_or] at plain
    exact .plain (Ne.symm plain.1) (ih plain.2)

/-- A blank of markup is white space. -/
theorem isBlank_of_isSpace (space : isSpace c = true) : Text.isBlank c = true := by
  unfold isSpace at space
  simp only [Bool.or_eq_true, beq_iff_eq] at space
  rcases space with ((rfl | rfl) | rfl) | rfl <;> decide

/-- A blank of markup starts and ends no entity. -/
theorem ne_of_isSpace (space : isSpace c = true) : c ≠ '&' ∧ c ≠ ';' := by
  constructor <;> rintro rfl <;> exact absurd space (by decide)

/-- Characters in front of a spelled text that start no entity stand for themselves. -/
theorem Spells.behind_plain {front : List Char} (plain : '&' ∉ front)
    (spells : Spells (front ++ raw) cs) : ∃ rest, Spells raw rest ∧ cs = front ++ rest := by
  induction front generalizing cs with
  | nil => exact ⟨cs, spells, rfl⟩
  | cons c front ih =>
    rw [List.mem_cons, not_or] at plain
    generalize whole : c :: front ++ raw = spelled at spells
    cases spells with
    | nil => cases whole
    | plain noAmp behind =>
      obtain ⟨rfl, rfl⟩ := List.cons.inj whole
      obtain ⟨rest, spells, rfl⟩ := ih plain.2 behind
      exact ⟨rest, spells, rfl⟩
    | entity => exact absurd (List.cons.inj whole).1.symm plain.1

/-- A blank behind a spelled text stands for itself. -/
theorem Spells.before_blank (space : isSpace c = true) (spells : Spells (raw ++ [c]) cs) :
    ∃ rest, Spells raw rest ∧ cs = rest ++ [c] := by
  generalize whole : raw ++ [c] = spelled at spells
  induction spells generalizing raw with
  | nil => exact absurd whole (List.append_ne_nil_of_right_ne_nil raw (List.cons_ne_nil c []))
  | @plain d later cs noAmp rest ih =>
    cases raw with
    | nil =>
      obtain ⟨rfl, rfl⟩ := List.cons.inj whole
      cases rest
      exact ⟨[], .nil, rfl⟩
    | cons first raw =>
      obtain ⟨rfl, tail⟩ := List.cons.inj whole
      obtain ⟨found, spelled, rfl⟩ := ih tail
      exact ⟨first :: found, .plain noAmp spelled, rfl⟩
  | @entity name d later cs noAmp noEnd means rest ih =>
    rcases List.eq_nil_or_concat later with rfl | ⟨before, last, rfl⟩
    · have ends := List.append_inj_right' ((whole.trans (List.append_nil _))) rfl
      have isEnd : c = ';' := List.singleton_inj.mp ends
      exact absurd isEnd (ne_of_isSpace space).2
    · rw [List.concat_eq_append, ← List.append_assoc] at whole
      obtain ⟨front, ends⟩ := List.append_inj' whole rfl
      have isLast : c = last := List.singleton_inj.mp ends
      subst front isLast
      obtain ⟨found, spelled, rfl⟩ := ih List.concat_eq_append.symm
      exact ⟨d :: found, .entity noAmp noEnd means spelled, rfl⟩

/-- Blanks behind a spelled text stand for themselves. -/
theorem Spells.before_blanks (space : ∀ c ∈ blanks, isSpace c = true)
    (spells : Spells (raw ++ blanks) cs) : ∃ rest, Spells raw rest ∧ cs = rest ++ blanks := by
  induction blanks generalizing raw with
  | nil => exact ⟨cs, by simpa using spells, (List.append_nil cs).symm⟩
  | cons c blanks ih =>
    rw [List.forall_mem_cons] at space
    rw [List.append_cons] at spells
    obtain ⟨front, before, rfl⟩ := ih space.2 spells
    obtain ⟨rest, inFront, rfl⟩ := before.before_blank space.1
    exact ⟨rest, inFront, (List.append_cons rest c blanks).symm⟩

/-- What is left of a text without the blanks at its ends. -/
def core (raw : List Char) : List Char :=
  trimBack (raw.dropWhile isSpace)

/-- A text is what is left of it with blanks around that. -/
theorem exists_around (raw : List Char) : ∃ front back, (∀ c ∈ front, isSpace c = true) ∧
    (∀ c ∈ back, isSpace c = true) ∧ raw = front ++ (core raw ++ back) := by
  have ends (cs : List Char) : ∀ c ∈ cs.takeWhile isSpace, isSpace c = true :=
    fun c => List.mem_takeWhile_imp
  refine ⟨raw.takeWhile isSpace, ((raw.dropWhile isSpace).reverse.takeWhile isSpace).reverse,
    ends raw, fun c member => ends _ c (List.mem_reverse.mp member), ?_⟩
  unfold core trimBack
  rw [← List.reverse_append, List.takeWhile_append_dropWhile, List.reverse_reverse,
    List.takeWhile_append_dropWhile]

/-- What is left of a spelled text spells what is left of the text. -/
theorem Spells.exists_core (spells : Spells raw cs) :
    ∃ inner, Spells (core raw) inner ∧ Text.trim inner = Text.trim cs := by
  obtain ⟨front, back, inFront, inBack, split⟩ := exists_around raw
  rw [split] at spells
  have plain : '&' ∉ front := fun member => (ne_of_isSpace (inFront _ member)).1 rfl
  obtain ⟨rest, behind, rfl⟩ := spells.behind_plain plain
  obtain ⟨inner, between, rfl⟩ := behind.before_blanks inBack
  refine ⟨inner, between, ?_⟩
  rw [Text.trim_blanks_append fun c member => isBlank_of_isSpace (inFront c member),
    Text.trim_append_blanks fun c member => isBlank_of_isSpace (inBack c member)]

/-- A text has no event exactly when it is blank. -/
theorem textEvents_eq (raw : List Char) :
    textEvents raw = if raw.all isSpace then [] else [.ok (.text (core raw))] := by
  have nothing : (core raw).isEmpty = raw.all isSpace := by
    rw [Bool.eq_iff_iff, List.isEmpty_iff, List.all_eq_true]
    exact Text.dropEnds_eq_nil_iff isSpace
  unfold textEvents
  exact congrArg (fun b : Bool => if b then [] else [_]) nothing

/-! ## Forests of spelled texts -/

/-- Where a text ends: at markup or at the end of the document. -/
def AtMarkup (cs : List Char) : Prop :=
  cs = [] ∨ ∃ markup, cs = '<' :: markup

/-- A text is read up to the markup behind it. -/
theorem eventsFrom_text (noMarkup : '<' ∉ raw) (stop : AtMarkup more) :
    eventsFrom opened (raw ++ more) = textEvents raw ++ eventsFrom opened more := by
  have all : ∀ c ∈ raw, (c != '<') = true := fun c member =>
    bne_iff_ne.mpr fun same => noMarkup (same ▸ member)
  have noText : leadingText more = [] := by
    rcases stop with rfl | ⟨markup, rfl⟩ <;> rfl
  have text : leadingText (raw ++ more) = raw := by
    unfold leadingText at noText ⊢
    rw [List.takeWhile_append_of_pos all, noText, List.append_nil]
  rw [eventsFrom_eq, text, List.dropWhile_append_of_pos all, eventsFrom_eq opened more, noText]
  rfl

namespace Forest

/-- What a forest is written as when its texts are given as they are spelled. -/
def spelled : Forest → List Char
  | nil => []
  | text raw rest => raw.toList ++ rest.spelled
  | single head rest => '<' :: (head.content ++ '/' :: '>' :: rest.spelled)
  | nest head children rest =>
    '<' :: (head.content ++ '>' ::
      (children.spelled ++ '<' :: '/' :: (head.name.toList ++ '>' :: rest.spelled)))

/-- Whether a forest starts with a text. -/
def startsWithText : Forest → Bool
  | text _ _ => true
  | _ => false

/-- Every text spells its content, and no two texts stand next to each other. -/
def TextsSpell (content : String → String) : Forest → Prop
  | nil => True
  | text raw rest =>
    ('<' ∉ raw.toList ∧ Spells raw.toList (content raw).toList) ∧ rest.startsWithText = false ∧
      rest.TextsSpell content
  | single _ rest => rest.TextsSpell content
  | nest _ children rest => children.TextsSpell content ∧ rest.TextsSpell content

/-- The events of a forest whose texts are given as they are spelled. -/
def events : Forest → List (Except Fault Event)
  | nil => []
  | text raw rest => textEvents raw.toList ++ rest.events
  | single head rest => .ok (.single head.tag) :: rest.events
  | nest head children rest =>
    .ok (.opening head.tag) :: (children.events ++ .ok .closing :: rest.events)

variable {forest : Forest} {content : String → String}

/-- A forest that does not start with a text starts with markup. -/
theorem atMarkup_spelled (noText : forest.startsWithText = false) (stop : AtMarkup more) :
    AtMarkup (forest.spelled ++ more) := by
  cases forest with
  | nil => exact stop
  | text raw rest => cases noText
  | single head rest => exact .inr ⟨_, rfl⟩
  | nest head children rest => exact .inr ⟨_, rfl⟩

/-- A forest that is written with its texts as they are spelled is read as its events. -/
theorem eventsFrom_spelled (sound : forest.WellFormed) (spells : forest.TextsSpell content)
    (stop : AtMarkup more) :
    eventsFrom opened (forest.spelled ++ more) = forest.events ++ eventsFrom opened more := by
  induction forest generalizing opened more with
  | nil => rfl
  | text raw rest ih =>
    have behind : AtMarkup (rest.spelled ++ more) := atMarkup_spelled spells.2.1 stop
    rw [spelled, events, List.append_assoc, eventsFrom_text spells.1.1 behind,
      ih sound spells.2.2 stop, List.append_assoc]
  | single head rest ih =>
    rw [spelled, events, List.cons_append, List.append_assoc, List.cons_append, List.cons_append,
      eventsFrom_markup sound.1.readMarkup_single, ih sound.2 spells stop]
    rfl
  | nest head children rest ihChildren ihRest =>
    have shape : (nest head children rest).spelled ++ more =
        '<' :: (head.content ++ '>' :: (children.spelled ++
          '<' :: '/' :: (head.name.toList ++ '>' :: (rest.spelled ++ more)))) := by
      rw [spelled]
      simp only [List.cons_append, List.append_assoc]
    have inside (behind : List Char) :
        eventsFrom (head.name.toList :: opened) (children.spelled ++ '<' :: behind) =
          children.events ++ eventsFrom (head.name.toList :: opened) ('<' :: behind) :=
      ihChildren sound.2.1 spells.1 (.inr ⟨_, rfl⟩)
    have closing : readMarkup (head.name.toList :: opened)
        ('/' :: (head.name.toList ++ '>' :: (rest.spelled ++ more))) =
          .ok (.closing, opened, rest.spelled ++ more) :=
      readMarkup_closing sound.1.name.closable
    rw [shape, eventsFrom_markup sound.1.readMarkup_opening, inside, eventsFrom_markup closing,
      ihRest sound.2.2 spells.2 stop, events]
    simp only [List.cons_append, List.append_assoc]

/-- A forest that is written with a character other than a bracket in front starts with a text. -/
theorem exists_text_of_spelled {behind : List Char} (spells : forest.TextsSpell content)
    (written : forest.spelled = c :: behind) (other : c ≠ '<') :
    ∃ raw raw' rest, forest = text raw rest ∧ raw.toList = c :: raw' ∧
      behind = raw' ++ rest.spelled := by
  cases forest with
  | nil => cases written
  | single head rest => exact absurd (List.cons.inj written).1.symm other
  | nest head children rest => exact absurd (List.cons.inj written).1.symm other
  | text raw rest =>
    rw [spelled] at written
    cases first : raw.toList with
    | cons d raw' =>
      rw [first] at written
      obtain ⟨rfl, rfl⟩ := List.cons.inj written
      exact ⟨raw, raw', rest, rfl, first, rfl⟩
    | nil =>
      rw [first, List.nil_append] at written
      have atMarkup : AtMarkup (rest.spelled ++ []) := atMarkup_spelled spells.2.1 (.inl rfl)
      rw [List.append_nil, written] at atMarkup
      rcases atMarkup with nothing | ⟨markup, bracket⟩
      · cases nothing
      · exact absurd (List.cons.inj bracket).1 other

/-- A document is read as the events of its forest, except for a mark in front of it, which is no
part of the first text. -/
theorem events_spelled (sound : forest.WellFormed) (spells : forest.TextsSpell content) :
    Xml.events (String.ofList forest.spelled) = forest.events ∨
      ∃ raw raw' cs rest, forest = text raw rest ∧ Spells raw' cs ∧
        Xml.events (String.ofList forest.spelled) = textEvents raw' ++ rest.events := by
  have finish : AtMarkup [] := .inl rfl
  have read {forest : Forest} (sound : forest.WellFormed) (spells : forest.TextsSpell content) :
      eventsFrom [] forest.spelled = forest.events := by
    have whole : eventsFrom [] (forest.spelled ++ []) = forest.events ++ eventsFrom [] [] :=
      eventsFrom_spelled sound spells finish
    rw [eventsFrom_eq [] [], List.append_nil] at whole
    exact whole.trans (List.append_nil _)
  unfold Xml.events
  rw [String.toList_ofList]
  cases written : forest.spelled with
  | nil =>
    have nothing : forest.events = [] := by
      rw [← read sound spells, written, eventsFrom_eq]
      rfl
    exact .inl nothing.symm
  | cons c behind =>
    dsimp only
    by_cases mark : c = byteOrderMark
    · subst mark
      obtain ⟨raw, raw', rest, rfl, first, rfl⟩ :=
        exists_text_of_spelled spells written (by decide)
      have noMarkup : '<' ∉ raw' := fun member => spells.1.1 (by simp [first, member])
      have whole : Spells ([byteOrderMark] ++ raw') (content raw).toList := by
        rw [List.singleton_append, ← first]
        exact spells.1.2
      obtain ⟨cs, spelled, -⟩ := whole.behind_plain (by decide)
      have atMarkup : AtMarkup (rest.spelled ++ []) := atMarkup_spelled spells.2.1 finish
      rw [List.append_nil] at atMarkup
      refine .inr ⟨raw, raw', cs, rest, rfl, spelled, ?_⟩
      have behind : eventsFrom [] rest.spelled = rest.events := read sound spells.2.2
      rw [if_pos rfl, eventsFrom_text noMarkup atMarkup, behind]
    · rw [if_neg mark, ← written]
      exact .inl (read sound spells)

end Forest
end QualityGates.Xml
