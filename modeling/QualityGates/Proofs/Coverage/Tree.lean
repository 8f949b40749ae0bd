import QualityGates.Coverage.Jacoco
import QualityGates.Proofs.Xml.Forest

/-!
# Reading a report as a tree

A report is read event by event. Reading the document that a forest is written as is the same as
going through the elements of the forest: the tags of an element are taken before and after what
stands between them, and texts do not matter.
-/

namespace QualityGates.Coverage

open Xml (Forest)

/-- Takes the elements of a forest. -/
def Progress.takeForest (p : Progress) : Forest → Except CoverageFault Progress
  | .nil => .ok p
  | .text _ rest => p.takeForest rest
  | .single head rest => (p.take (.single head.tag)).bind fun p => p.takeForest rest
  | .nest head children rest =>
    (p.take (.opening head.tag)).bind fun p =>
      (p.takeForest children).bind fun p => p.takeClosing.takeForest rest

variable {p : Progress} {forest : Forest} {opened : List (List Char)} {cs more : List Char}

/-- Texts do not matter. -/
theorem takeAll_text (noMarkup : '<' ∉ cs) :
    p.takeAll (Xml.eventsFrom opened (cs ++ more)) = p.takeAll (Xml.eventsFrom opened more) := by
  have ignored : ∀ text events, p.takeAll (Xml.textEvents text ++ events) = p.takeAll events := by
    intro text events
    unfold Xml.textEvents
    dsimp only
    split <;> rfl
  have all : ∀ c ∈ cs, (c != '<') = true := fun c member =>
    bne_iff_ne.mpr fun same => noMarkup (same ▸ member)
  rw [Xml.eventsFrom_eq, ignored, List.dropWhile_append_of_pos all, Xml.eventsFrom_eq opened more,
    ignored]

/-- An event that is read is taken. -/
theorem takeAll_cons (event : Xml.Event) (events : List (Except Xml.Fault Xml.Event)) :
    p.takeAll (.ok event :: events) = (p.take event).bind fun p => p.takeAll events := by
  rw [Progress.takeAll]
  cases p.take event <;> rfl

/-- Reading the events of a written forest is going through its elements. -/
theorem takeAll_written (sound : forest.WellFormed) :
    p.takeAll (Xml.eventsFrom opened (forest.written ++ more)) =
      (p.takeForest forest).bind fun p => p.takeAll (Xml.eventsFrom opened more) := by
  induction forest generalizing p opened more with
  | nil => rfl
  | text content rest ih =>
    have noMarkup : '<' ∉ Xml.escape content.toList := fun member =>
      (Xml.ne_of_mem_escape member).1 rfl
    rw [Forest.written, List.append_assoc, takeAll_text noMarkup, Progress.takeForest]
    exact ih sound
  | single head rest ih =>
    rw [Forest.written, Progress.takeForest, List.cons_append, List.append_assoc, List.cons_append,
      List.cons_append, Xml.eventsFrom_markup sound.1.readMarkup_single, takeAll_cons]
    cases p.take (.single head.tag) with
    | error fault => rfl
    | ok p => exact ih sound.2
  | nest head children rest ihChildren ihRest =>
    have shape : (Forest.nest head children rest).written ++ more =
        '<' :: (head.content ++ '>' :: (children.written ++
          '<' :: '/' :: (head.name.toList ++ '>' :: (rest.written ++ more)))) := by
      rw [Forest.written]
      simp only [List.cons_append, List.append_assoc]
    rw [shape, Progress.takeForest, Xml.eventsFrom_markup sound.1.readMarkup_opening, takeAll_cons]
    cases p.take (.opening head.tag) with
    | error fault => rfl
    | ok p =>
      show Progress.takeAll p _ = ((p.takeForest children).bind _).bind _
      rw [ihChildren sound.2.1]
      cases p.takeForest children with
      | error fault => rfl
      | ok p =>
        show Progress.takeAll p _ = (p.takeClosing.takeForest rest).bind _
        rw [Xml.eventsFrom_markup (Xml.readMarkup_closing sound.1.name.closable), takeAll_cons]
        exact ihRest sound.2.2

/-- Where a text ends, nothing more is taken. -/
theorem takeAll_end : p.takeAll (Xml.eventsFrom opened []) = .ok p := by
  rw [Xml.eventsFrom_eq]
  rfl

/-- A mark in front of a document does not matter. -/
theorem takeAll_events (text : String) :
    p.takeAll (Xml.events text) = p.takeAll (Xml.eventsFrom [] text.toList) := by
  unfold Xml.events
  cases text.toList with
  | nil => exact takeAll_end.symm
  | cons c rest =>
    dsimp only
    by_cases mark : c = Xml.byteOrderMark
    · rw [if_pos mark, mark]
      have passed : p.takeAll (Xml.eventsFrom [] ([Xml.byteOrderMark] ++ rest)) =
          p.takeAll (Xml.eventsFrom [] rest) := takeAll_text (by decide)
      exact passed.symm
    · rw [if_neg mark]

/-- Reading a document is going through the elements of its forest. -/
theorem takeAll_document (sound : forest.WellFormed) :
    p.takeAll (Xml.events forest.document) = p.takeForest forest := by
  have read : p.takeAll (Xml.eventsFrom [] (forest.written ++ [])) =
      (p.takeForest forest).bind fun q => q.takeAll (Xml.eventsFrom [] []) := takeAll_written sound
  rw [List.append_nil] at read
  rw [takeAll_events, Forest.document, String.toList_ofList, read]
  cases p.takeForest forest with
  | error fault => rfl
  | ok q => exact takeAll_end

end QualityGates.Coverage
