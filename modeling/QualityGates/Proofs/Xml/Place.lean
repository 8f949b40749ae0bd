import QualityGates.Proofs.Xml.Forest

/-!
# Places in a forest

The place of a text is the list of the names of the elements around it, from the outermost one. A
forest that stands below some place has texts only at places behind it, so what is put into an
element with a name that leads elsewhere adds no text to a place.
-/

namespace QualityGates.Xml.Forest

/-- One forest behind another one. -/
def append : Forest → Forest → Forest
  | nil, other => other
  | text content rest, other => text content (rest.append other)
  | single head rest, other => single head (rest.append other)
  | nest head children rest, other => nest head children (rest.append other)

/-- The texts at a place, in the order of the document; `above` is the place that the forest itself
stands at. -/
def textsAt (place above : List String) : Forest → List String
  | nil => []
  | text content rest => (if above = place then [content] else []) ++ rest.textsAt place above
  | single _ rest => rest.textsAt place above
  | nest head children rest =>
    children.textsAt place (above ++ [head.name]) ++ rest.textsAt place above

variable {place above : List String} {forest other : Forest}

/-- The texts of two forests come one after the other. -/
theorem textsAt_append :
    (forest.append other).textsAt place above =
      forest.textsAt place above ++ other.textsAt place above := by
  induction forest with
  | nil => rfl
  | text content rest ih => simp only [append, textsAt, ih, List.append_assoc]
  | single head rest ih => simpa only [append, textsAt] using ih
  | nest head children rest _ ih => simp only [append, textsAt, ih, List.append_assoc]

/-- Below a place that does not lead to another one, that other place has no texts. -/
theorem textsAt_elsewhere (elsewhere : ¬ above <+: place) : forest.textsAt place above = [] := by
  induction forest generalizing above with
  | nil => rfl
  | text content rest ih =>
    have differs : above ≠ place := fun same => elsewhere (same ▸ List.prefix_refl above)
    rw [textsAt, if_neg differs, ih elsewhere]
    rfl
  | single head rest ih => exact ih elsewhere
  | nest head children rest ihChildren ihRest =>
    have further : ¬ above ++ [head.name] <+: place := fun leads =>
      elsewhere ((List.prefix_append above [head.name]).trans leads)
    rw [textsAt, ihChildren further, ihRest elsewhere]
    rfl

/-- Below a place, only the elements with the next name and the texts of the place itself matter. -/
theorem textsAt_of_heads (inside : above ≠ place)
    (apart : ∀ head ∈ forest.heads, ¬ above ++ [head.name] <+: place) :
    forest.textsAt place above = [] := by
  induction forest with
  | nil => rfl
  | text content rest ih =>
    rw [textsAt, if_neg inside, ih apart]
    rfl
  | single head rest ih => exact ih (List.forall_mem_cons.mp apart).2
  | nest head children rest _ ih =>
    obtain ⟨here, later⟩ := List.forall_mem_cons.mp apart
    rw [textsAt, textsAt_elsewhere here, ih later]
    rfl

/-- The forest has an element with a name, and the other one has further children in it. -/
inductive AddsInside (name : String) (added : Forest) : Forest → Forest → Prop where
  /-- The children may stand between those that the element has. -/
  | between {before front back after : Forest} {head : Head} (named : head.name = name) :
    AddsInside name added (before.append (nest head (front.append back) after))
      (before.append (nest head (front.append (added.append back)) after))
  /-- An element with one tag gets two. -/
  | filled {before after : Forest} {head : Head} (named : head.name = name) :
    AddsInside name added (before.append (single head after))
      (before.append (nest head added after))

/-- Children that have no texts at a place do not change the texts there. -/
theorem AddsInside.textsAt_eq {name : String} {added : Forest}
    (adds : AddsInside name added forest other) (nothing : added.textsAt place [name] = []) :
    other.textsAt place [] = forest.textsAt place [] := by
  cases adds with
  | between named =>
    simp only [textsAt_append, textsAt, List.nil_append, named, nothing]
  | filled named =>
    simp only [textsAt_append, textsAt, List.nil_append, named, nothing]

end QualityGates.Xml.Forest
