/-!
# Tables

Lists of pairs in which values are looked up by their keys.
-/

namespace QualityGates

variable {κ α : Type} [BEq κ] [LawfulBEq κ] [DecidableEq κ] {key : κ} {value : α}
  {table : List (κ × α)}

/-- The first pair decides the value of its own key. -/
theorem lookup_cons_ite (first key : κ) (value : α) (table : List (κ × α)) :
    ((first, value) :: table).lookup key =
      if key = first then some value else table.lookup key := by
  rw [List.lookup_cons]
  by_cases same : key = first
  · rw [if_pos same, same, beq_self_eq_true]
  · rw [if_neg same, beq_eq_false_iff_ne.mpr same]

/-- What is found stands in the table. -/
theorem mem_of_lookup (found : table.lookup key = some value) : (key, value) ∈ table := by
  induction table with
  | nil => cases found
  | cons first table ih =>
    obtain ⟨other, old⟩ := first
    rw [lookup_cons_ite] at found
    by_cases same : key = other
    · rw [if_pos same] at found
      rw [same, Option.some.inj found]
      exact List.mem_cons_self
    · rw [if_neg same] at found
      exact List.mem_cons_of_mem _ (ih found)

/-- Where keys differ, what stands in the table is found. -/
theorem lookup_of_mem (nodup : (table.map Prod.fst).Nodup) (member : (key, value) ∈ table) :
    table.lookup key = some value := by
  induction table with
  | nil => cases member
  | cons first table ih =>
    obtain ⟨other, old⟩ := first
    rw [List.map_cons, List.nodup_cons] at nodup
    rw [lookup_cons_ite]
    rcases List.mem_cons.mp member with same | later
    · cases same
      rw [if_pos rfl]
    · have differs : key ≠ other := fun same =>
        nodup.1 (List.mem_map.mpr ⟨(key, value), later, same⟩)
      rw [if_neg differs]
      exact ih nodup.2 later

/-- Where keys differ, the order of a table does not matter. -/
theorem lookup_eq_of_perm {other : List (κ × α)} (nodup : (table.map Prod.fst).Nodup)
    (perm : other.Perm table) : other.lookup key = table.lookup key := by
  have nodup' : (other.map Prod.fst).Nodup := (perm.map Prod.fst).nodup_iff.mpr nodup
  apply Option.ext
  intro value
  constructor
  · intro found
    exact lookup_of_mem nodup (perm.mem_iff.mp (mem_of_lookup found))
  · intro found
    exact lookup_of_mem nodup' (perm.mem_iff.mpr (mem_of_lookup found))

end QualityGates
