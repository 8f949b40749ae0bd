import QualityGates.Proofs.Text.Blank
import QualityGates.Proofs.Text.Separated

/-!
# Comma lists

The entries of a comma list are not empty, hold no comma and have no blanks around them. A comma
between two lists joins their entries, and entries that are written with blanks around them and
blank pieces between them are read back (`commaList_exact`).
-/

namespace QualityGates.Text

/-- An entry that a comma list can have. -/
structure IsEntry (entry : List Char) : Prop where
  present : entry ≠ []
  whole : ',' ∉ entry
  /-- It does not start with a blank. -/
  starts : ∀ c ∈ entry.head?, isBlank c = false
  /-- It does not end with a blank. -/
  ends : ∀ c ∈ entry.getLast?, isBlank c = false

/-- The pieces that are written for some entries: each entry with any blanks around it, and any
blank pieces besides. -/
inductive WrittenAs : List (List Char) → List (List Char) → Prop where
  | none : WrittenAs [] []
  | blank {entries parts : List (List Char)} (piece : List Char)
    (blank : ∀ c ∈ piece, isBlank c = true) (more : WrittenAs entries parts) :
    WrittenAs entries (piece :: parts)
  | entry {entries parts : List (List Char)} (front entry back : List Char)
    (before : ∀ c ∈ front, isBlank c = true) (behind : ∀ c ∈ back, isBlank c = true)
    (more : WrittenAs entries parts) :
    WrittenAs (entry :: entries) ((front ++ entry ++ back) :: parts)

variable {cs ds entry piece : List Char} {entries parts : List (List Char)}

/-- A comma is no blank. -/
theorem comma_notMem_of_blank (blank : ∀ c ∈ cs, isBlank c = true) : ',' ∉ cs :=
  fun comma => absurd (blank ',' comma) (by decide)

/-- The entries of a comma list are what is left of its pieces without the blanks around them. -/
theorem mem_commaEntries_iff :
    entry ∈ commaEntries cs ↔ ∃ piece ∈ pieces ',' cs, TrimsTo piece entry ∧ entry ≠ [] := by
  unfold commaEntries
  simp only [List.mem_filter, List.mem_map, trim_eq_iff, Bool.not_eq_true',
    List.isEmpty_eq_false_iff]
  constructor
  · rintro ⟨⟨piece, member, trims⟩, present⟩
    exact ⟨piece, member, trims, present⟩
  · rintro ⟨piece, member, trims, present⟩
    exact ⟨⟨piece, member, trims⟩, present⟩

/-- What is read from a comma list can be its entries. -/
theorem isEntry_of_mem (member : entry ∈ commaEntries cs) : IsEntry entry := by
  obtain ⟨piece, isPiece, trims, present⟩ := mem_commaEntries_iff.mp member
  obtain ⟨front, back, split, _⟩ := trims.around
  refine ⟨present, fun comma => ?_, trims.starts, trims.ends⟩
  apply not_mem_of_mem_pieces isPiece
  rw [split]
  exact List.mem_append_left back (List.mem_append_right front comma)

/-- A comma between two lists joins their entries. -/
theorem commaEntries_append (cs ds : List Char) :
    commaEntries (cs ++ ',' :: ds) = commaEntries cs ++ commaEntries ds := by
  unfold commaEntries
  rw [pieces_append_mark, List.map_append, List.filter_append]

/-- No piece that is written for entries holds a comma. -/
theorem WrittenAs.whole (written : WrittenAs entries parts)
    (proper : ∀ entry ∈ entries, IsEntry entry) : ∀ piece ∈ parts, ',' ∉ piece := by
  induction written with
  | none => exact nofun
  | blank piece blank _ ih =>
    exact List.forall_mem_cons.mpr ⟨comma_notMem_of_blank blank, ih proper⟩
  | entry front entry back before behind _ ih =>
    rw [List.forall_mem_cons] at proper
    refine List.forall_mem_cons.mpr ⟨?_, ih proper.2⟩
    rw [List.mem_append, List.mem_append, not_or, not_or]
    exact ⟨⟨comma_notMem_of_blank before, proper.1.whole⟩, comma_notMem_of_blank behind⟩

/-- The pieces that are written for entries are trimmed to them. -/
theorem WrittenAs.filter_map_trim (written : WrittenAs entries parts)
    (proper : ∀ entry ∈ entries, IsEntry entry) :
    (parts.map trim).filter (fun entry => !entry.isEmpty) = entries := by
  induction written with
  | none => rfl
  | blank piece blank _ ih =>
    rw [List.map_cons, trim_eq_nil_iff.mpr blank, List.filter_cons_of_neg (by decide), ih proper]
  | entry front entry back before behind _ ih =>
    rw [List.forall_mem_cons] at proper
    obtain ⟨isEntry, proper⟩ := proper
    have trims : TrimsTo (front ++ entry ++ back) entry :=
      ⟨⟨front, back, rfl, before, behind⟩, isEntry.starts, isEntry.ends⟩
    rw [List.map_cons, trim_eq_iff.mpr trims,
      List.filter_cons_of_pos (by simpa using isEntry.present), ih proper]

/-- Entries are read back from what is written for them. -/
theorem WrittenAs.commaEntries_eq (written : WrittenAs entries parts)
    (proper : ∀ entry ∈ entries, IsEntry entry) :
    commaEntries ([','].intercalate parts) = entries := by
  have read := written.filter_map_trim proper
  have whole := written.whole proper
  unfold commaEntries
  cases parts with
  | nil =>
    rw [← read]
    rfl
  | cons piece more => rw [pieces_intercalate (List.cons_ne_nil piece more) whole, read]

/-- The entries of a comma list are not empty, hold no comma and have no blanks around them; a comma
between two lists joins their entries; and entries of this kind that are joined by commas, with any
blanks around them and any blank pieces besides, are read back. -/
theorem commaList_exact :
    (∀ list, ∀ entry ∈ commaList list, IsEntry entry.toList) ∧
    (∀ list more, commaList (list ++ "," ++ more) = commaList list ++ commaList more) ∧
    ∀ entries parts : List String, (∀ entry ∈ entries, IsEntry entry.toList) →
      WrittenAs (entries.map String.toList) (parts.map String.toList) →
        commaList (String.intercalate "," parts) = entries := by
  unfold commaList
  refine ⟨?_, ?_, ?_⟩
  · intro list entry member
    obtain ⟨cs, isEntry, rfl⟩ := List.mem_map.mp member
    rw [String.toList_ofList]
    exact isEntry_of_mem isEntry
  · intro list more
    rw [String.toList_append, String.toList_append, List.append_assoc, ← List.map_append,
      ← commaEntries_append]
    rfl
  · intro entries parts proper written
    have proper : ∀ entry ∈ entries.map String.toList, IsEntry entry :=
      List.forall_mem_map.mpr proper
    rw [String.toList_intercalate, show ",".toList = [','] from rfl, written.commaEntries_eq proper,
      List.map_map]
    exact List.map_id'' (fun _ => String.ofList_toList) entries

/-- Blanks around entries and blank pieces between them are left out. -/
theorem spaced_list_read : (∀ entry ∈ ["1.0", "b c"], IsEntry entry.toList) ∧
    commaList " 1.0\t,, ,b c," = ["1.0", "b c"] := by
  have number : IsEntry "1.0".toList := by
    refine ⟨by decide, by decide, ?_, ?_⟩ <;> rintro _ ⟨⟩ <;> rfl
  have letters : IsEntry "b c".toList := by
    refine ⟨by decide, by decide, ?_, ?_⟩ <;> rintro _ ⟨⟩ <;> rfl
  have proper : ∀ entry ∈ ["1.0", "b c"], IsEntry entry.toList :=
    List.forall_mem_cons.mpr ⟨number, List.forall_mem_singleton.mpr letters⟩
  have blank : ∀ c ∈ [' '], isBlank c = true := List.forall_mem_singleton.mpr rfl
  have tab : ∀ c ∈ ['\t'], isBlank c = true := List.forall_mem_singleton.mpr rfl
  have written : WrittenAs (["1.0", "b c"].map String.toList)
      ([" 1.0\t", "", " ", "b c", ""].map String.toList) :=
    .entry [' '] "1.0".toList ['\t'] blank tab <| .blank [] nofun <| .blank [' '] blank <|
      .entry [] "b c".toList [] nofun nofun <| .blank [] nofun .none
  exact ⟨proper, commaList_exact.2.2 ["1.0", "b c"] [" 1.0\t", "", " ", "b c", ""] proper written⟩

end QualityGates.Text
