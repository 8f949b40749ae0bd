import Mathlib.Data.List.Forall2
import Mathlib.Data.List.Infix
import QualityGates.Proofs.Coverage.Rows
import QualityGates.Proofs.Json.Printed

/-!
# Summaries with limits

The table and the listing in JSON of ranked classes each take the first classes for themselves. The
rows of the table are numbered from one on, and a table with a lower limit is the front of one with
a higher limit. The items of the listing tell of the same classes in the same order.
-/

namespace QualityGates.Coverage

open Json (ReadsAs)

variable {k l : Nat}

/-! ## Tables -/

/-- What a table shows of a ranking: how many classes there are, the names of the columns, and a row
for each of the first classes, with numbers from one on. -/
structure IsTable (limit : Nat) (ranking : List ClassCoverage) (rows : List String)
    (text : String) : Prop where
  text_eq : text = "Found " ++ Number.natText ranking.length ++ " classes\n" ++
    "Rank  Coverage%  Missed Covered  Class\n" ++ String.join (rows.map fun line => line ++ "\n")
  length_eq : rows.length = min limit ranking.length
  getElem?_eq : ∀ i < limit, rows[i]? = ranking[i]?.map (row (i + 1))
  shown : ∀ i < limit, ∀ c, ranking[i]? = some c → ∃ line, rows[i]? = some line ∧
    ShowsClass (i + 1) c line

/-- The table of a ranking shows it. -/
theorem isTable_table (limit : Nat) (ranking : List ClassCoverage) :
    IsTable limit ranking (rows 1 (ranking.take limit)) (table limit ranking) := by
  have numbered (i : Nat) (less : i < limit) :
      (rows 1 (ranking.take limit))[i]? = ranking[i]?.map (row (i + 1)) := by
    rw [getElem?_rows, List.getElem?_take_of_lt less, Nat.add_comm 1]
  refine ⟨?_, ?_, numbered, fun i less c there => ⟨row (i + 1) c, ?_, showsClass_row _ c⟩⟩
  · have feed (s : String) : s ++ " classes\n" = s ++ " classes" ++ "\n" := by
      rw [String.append_assoc]
      rfl
    unfold table tableLines
    rw [List.map_append, String.join_append, feed]
    rfl
  · rw [length_rows, List.length_take]
  · rw [numbered i less, there, Option.map_some]

/-- A table with a lower limit is the front of one with a higher limit. -/
theorem exists_table_eq_append (ranking : List ClassCoverage) (le : k ≤ l) :
    ∃ more, table l ranking = table k ranking ++ more := by
  obtain ⟨back, split⟩ : ranking.take k <+: ranking.take l :=
    List.take_isPrefix_take.mpr (.inl le)
  refine ⟨String.join ((rows (1 + (ranking.take k).length) back).map fun line => line ++ "\n"), ?_⟩
  rw [(isTable_table l ranking).text_eq, (isTable_table k ranking).text_eq, ← split, rows_append,
    List.map_append, String.join_append, ← String.append_assoc]

/-! ## Listings -/

/-- What is told of a class in JSON. -/
structure Tells (item : Json) (c : ClassCoverage) : Prop where
  name : item.member? "name" = some (.string c.name)
  missed : item.member? "missed" = some (.number (.word c.missed))
  covered : item.member? "covered" = some (.number (.word c.covered))

/-- A class in JSON is read as one that tells the same. -/
theorem exists_readsAs_classJson (depth : Nat) (c : ClassCoverage) :
    ∃ item, ReadsAs (depth + 2) (classJson c) item ∧ Tells item c := by
  obtain ⟨percent, reads, -⟩ := Json.readsAs_float depth c.percent
  have name : ReadsAs (depth + 1) (.string c.name) (.string c.name) := Json.readsAs_string c.name
  have count (n : UInt64) : ReadsAs (depth + 1) (.number (.word n)) (.number (.word n)) :=
    Json.readsAs_word n
  exact ⟨_, Json.readsAs_object (Nat.succ_ne_zero depth) (.cons (name.named "name")
    (.cons ((count c.missed).named "missed") (.cons ((count c.covered).named "covered")
      (.cons (reads.named "percent") .nil)))), rfl, rfl, rfl⟩

/-- Classes in JSON are read as as many that tell the same. -/
theorem exists_readsAs_classesJson (depth : Nat) (classes : List ClassCoverage) :
    ∃ items, List.Forall₂ (ReadsAs (depth + 2)) (classes.map classJson) items ∧
      List.Forall₂ Tells items classes := by
  induction classes with
  | nil => exact ⟨[], .nil, .nil⟩
  | cons c rest ih =>
    obtain ⟨item, reads, tells⟩ := exists_readsAs_classJson depth c
    obtain ⟨items, readsRest, tellsRest⟩ := ih
    exact ⟨item :: items, .cons reads readsRest, .cons tells tellsRest⟩

/-- What a listing in JSON shows of a ranking: an array with an item for each of the first classes,
in the same order. -/
structure IsListing (limit : Nat) (ranking : List ClassCoverage) (items : List Json)
    (text : String) : Prop where
  ofText_eq : Json.ofText text = .ok (.array items)
  length_eq : items.length = min limit ranking.length
  tells : List.Forall₂ Tells items (ranking.take limit)

/-- The listing of a ranking shows it. -/
theorem exists_isListing (limit : Nat) (ranking : List ClassCoverage) :
    ∃ items, IsListing limit ranking items ((json limit ranking).pretty ++ "\n") := by
  obtain ⟨items, reads, tells⟩ := exists_readsAs_classesJson 125 (ranking.take limit)
  refine ⟨items, Json.ofText_pretty (Json.readsAs_array (by decide) reads), ?_, tells⟩
  rw [tells.length_eq, List.length_take]

end QualityGates.Coverage
