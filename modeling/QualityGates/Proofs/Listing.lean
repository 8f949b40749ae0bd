import Mathlib.Data.List.Forall2

/-!
# Lists in the order of places

Nested loops over lists produce their results in the order of the positions that they go through.
`Listed` says so without the loops: the results stand in the order of their places, each place
gives one result, and no place that has one is left out. One lemma per loop builds the statement
for nested loops, whose places are ordered lexicographically.
-/

namespace QualityGates

variable {α β κ : Type} {before : κ → κ → Prop} {stands stands' : κ → β → Prop} {items : List β}

/-- What is paired has a partner. -/
theorem exists_mem_of_forall₂ {R : α → β → Prop} {xs : List α} {ys : List β}
    (paired : List.Forall₂ R xs ys) {y : β} (member : y ∈ ys) : ∃ x ∈ xs, R x y := by
  induction paired with
  | nil => cases member
  | cons here _ ih =>
    rcases List.mem_cons.mp member with rfl | later
    · exact ⟨_, List.mem_cons_self, here⟩
    · obtain ⟨x, xIn, related⟩ := ih later
      exact ⟨x, List.mem_cons_of_mem _ xIn, related⟩

/-- The items are what stands at places, in strictly increasing order of the places, and every
place at which something stands is among them. -/
def Listed (before : κ → κ → Prop) (stands : κ → β → Prop) (items : List β) : Prop :=
  ∃ places : List κ, places.Pairwise before ∧ List.Forall₂ stands places items ∧
    ∀ place item, stands place item → place ∈ places

namespace Listed

/-- Only what stands at which place matters. -/
theorem congr (same : ∀ place item, stands place item ↔ stands' place item)
    (listed : Listed before stands items) : Listed before stands' items := by
  obtain ⟨places, ordered, found, complete⟩ := listed
  exact ⟨places, ordered, found.imp fun place item => (same place item).mp,
    fun place item h => complete place item ((same place item).mpr h)⟩

/-- Nothing stands anywhere exactly when there are no items. -/
theorem eq_nil_iff (listed : Listed before stands items) :
    items = [] ↔ ∀ place item, ¬ stands place item := by
  obtain ⟨places, _, found, complete⟩ := listed
  constructor
  · rintro rfl place item h
    rw [List.forall₂_nil_right_iff] at found
    exact absurd (complete place item h) (by rw [found]; exact List.not_mem_nil)
  · intro nothing
    cases found with
    | nil => rfl
    | cons h _ => exact absurd h (nothing _ _)

/-- Where no two things stand at one place, the items are all that stands anywhere. -/
theorem mem_iff (listed : Listed before stands items)
    (single : ∀ place item other, stands place item → stands place other → item = other)
    {item : β} : item ∈ items ↔ ∃ place, stands place item := by
  obtain ⟨places, _, found, complete⟩ := listed
  constructor
  · intro member
    obtain ⟨place, _, here⟩ := exists_mem_of_forall₂ found member
    exact ⟨place, here⟩
  · rintro ⟨place, here⟩
    obtain ⟨other, member, there⟩ := exists_mem_of_forall₂ found.flip (complete place item here)
    rwa [single place item other here there]

/-- Items differ where they tell the places at which they stand. -/
theorem nodup_map {key : β → α} (listed : Listed before stands items)
    (irreflexive : ∀ place, ¬ before place place)
    (tells : ∀ place place' item other, stands place item → stands place' other →
      key item = key other → place = place') : (items.map key).Nodup := by
  obtain ⟨places, ordered, found, -⟩ := listed
  induction found with
  | nil => exact List.nodup_nil
  | @cons place item places items here found ih =>
    rw [List.pairwise_cons] at ordered
    rw [List.map_cons, List.nodup_cons]
    refine ⟨fun again => ?_, ih ordered.2⟩
    obtain ⟨other, member, same⟩ := List.mem_map.mp again
    obtain ⟨place', later, there⟩ := exists_mem_of_forall₂ found member
    have together : place = place' := tells _ _ _ _ here there same.symm
    exact irreflexive place' (together ▸ ordered.1 place' later)

/-- The first element of a list comes before the places of the elements behind it. -/
private theorem shift_places {places : List (Nat × κ)}
    (ordered : places.Pairwise (Prod.Lex (· < ·) before)) :
    (places.map fun place => (place.1 + 1, place.2)).Pairwise (Prod.Lex (· < ·) before) := by
  rw [List.pairwise_map]
  refine ordered.imp fun {a b} h => ?_
  rw [Prod.lex_def] at h ⊢
  rcases h with h | ⟨h, inner⟩
  · exact .inl (Nat.succ_lt_succ h)
  · exact .inr ⟨congrArg (· + 1) h, inner⟩

/-- A loop over a list lists what the body lists for each element, by the position of the element
first and by the place in the body after that. -/
theorem flatMap {as : List α} {body : α → List β} {stands : α → κ → β → Prop}
    (listed : ∀ a ∈ as, Listed before (stands a) (body a)) :
    Listed (Prod.Lex (fun i j : Nat => i < j) before)
      (fun place item => ∃ a, as[place.1]? = some a ∧ stands a place.2 item)
      (as.flatMap body) := by
  induction as with
  | nil => exact ⟨[], .nil, .nil, fun place item ⟨a, found, _⟩ => by simp at found⟩
  | cons a as ih =>
    obtain ⟨inner, innerOrdered, innerFound, innerComplete⟩ := listed a List.mem_cons_self
    obtain ⟨outer, outerOrdered, outerFound, outerComplete⟩ :=
      ih fun b member => listed b (List.mem_cons_of_mem a member)
    refine ⟨inner.map (fun place => (0, place)) ++
      outer.map (fun place => (place.1 + 1, place.2)), ?_, ?_, ?_⟩
    · rw [List.pairwise_append]
      refine ⟨?_, shift_places outerOrdered, ?_⟩
      · rw [List.pairwise_map]
        exact innerOrdered.imp fun h => .right 0 h
      · intro first firstIn second secondIn
        obtain ⟨place, _, rfl⟩ := List.mem_map.mp firstIn
        obtain ⟨later, _, rfl⟩ := List.mem_map.mp secondIn
        exact .left _ _ (Nat.succ_pos _)
    · rw [List.flatMap_cons]
      refine List.rel_append ?_ ?_
      · rw [List.forall₂_map_left_iff]
        exact innerFound.imp fun place item h => ⟨a, rfl, h⟩
      · rw [List.forall₂_map_left_iff]
        exact outerFound.imp fun place item ⟨b, found, h⟩ => ⟨b, by simpa using found, h⟩
    · rintro ⟨position, place⟩ item ⟨b, found, h⟩
      rw [List.mem_append, List.mem_map, List.mem_map]
      cases position with
      | zero =>
        obtain rfl : a = b := by simpa using found
        exact .inl ⟨place, innerComplete place item h, rfl⟩
      | succ position =>
        exact .inr ⟨(position, place),
          outerComplete (position, place) item ⟨b, by simpa using found, h⟩, rfl⟩

/-- A loop that keeps some elements lists them by position. -/
theorem filter_map {as : List α} {keeps : α → Bool} {result : α → β} :
    Listed (fun i j : Nat => i < j)
      (fun position item => ∃ a, as[position]? = some a ∧ keeps a = true ∧ item = result a)
      ((as.filter keeps).map result) := by
  induction as with
  | nil => exact ⟨[], .nil, .nil, fun position item ⟨a, found, _⟩ => by simp at found⟩
  | cons a as ih =>
    obtain ⟨places, ordered, found, complete⟩ := ih
    have ordered' : (places.map (· + 1)).Pairwise (· < ·) := by
      rw [List.pairwise_map]
      exact ordered.imp Nat.succ_lt_succ
    have found' : List.Forall₂ (fun position item =>
        ∃ b, (a :: as)[position]? = some b ∧ keeps b = true ∧ item = result b)
        (places.map (· + 1)) ((as.filter keeps).map result) := by
      rw [List.forall₂_map_left_iff]
      exact found.imp fun position item ⟨b, there, h⟩ => ⟨b, by simpa using there, h⟩
    cases kept : keeps a with
    | true =>
      refine ⟨0 :: places.map (· + 1), ?_, ?_, ?_⟩
      · rw [List.pairwise_cons]
        exact ⟨fun later h => by
          obtain ⟨place, _, rfl⟩ := List.mem_map.mp h
          exact Nat.succ_pos place, ordered'⟩
      · rw [List.filter_cons_of_pos kept, List.map_cons]
        exact .cons ⟨a, rfl, kept, rfl⟩ found'
      · rintro (_ | position) item ⟨b, there, h⟩
        · exact List.mem_cons_self
        · exact List.mem_cons_of_mem 0 (List.mem_map.mpr
            ⟨position, complete position item ⟨b, by simpa using there, h⟩, rfl⟩)
    | false =>
      refine ⟨places.map (· + 1), ordered', ?_, ?_⟩
      · rw [List.filter_cons_of_neg (by simp [kept])]
        exact found'
      · rintro (_ | position) item ⟨b, there, h⟩
        · obtain rfl : a = b := by simpa using there
          exact absurd h.1 (by simp [kept])
        · exact List.mem_map.mpr
            ⟨position, complete position item ⟨b, by simpa using there, h⟩, rfl⟩

end Listed
end QualityGates
