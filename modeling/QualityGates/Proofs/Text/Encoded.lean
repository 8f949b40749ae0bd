import Mathlib.Data.List.Basic

/-!
# Texts as bytes

A text is stored as the bytes of its characters one after the other. Only the first byte of a
character can start one, so bytes that were cut in front of such a byte were cut between two
characters (`encoded_cut`), and bytes that start with those of a character start with that character
(`encoded_eq_append_iff`).
-/

namespace QualityGates.Text

/-- The bytes of the characters of a text. -/
def encoded (cs : List Char) : List UInt8 :=
  cs.flatMap String.utf8EncodeChar

variable {c d : Char} {cs ds : List Char} {front back : List UInt8}

/-- The bytes of a character come before those of the text behind it. -/
theorem encoded_cons (c : Char) (cs : List Char) :
    encoded (c :: cs) = String.utf8EncodeChar c ++ encoded cs :=
  List.flatMap_cons

/-- The bytes of two texts come one after the other. -/
theorem encoded_append (cs ds : List Char) : encoded (cs ++ ds) = encoded cs ++ encoded ds :=
  List.flatMap_append

/-- A text is stored as the bytes of its characters. -/
theorem toUTF8_eq_encoded (s : String) : s.toUTF8.data.toList = encoded s.toList := by
  have stored : s.toUTF8 = s.toList.utf8Encode := String.utf8Encode_toList.symm
  rw [stored, List.utf8Encode, List.data_toByteArray]
  rfl

/-- Texts with the same bytes are the same. -/
theorem encoded_inj : encoded cs = encoded ds ↔ cs = ds := by
  constructor
  · intro same
    have stored : cs.utf8Encode = ds.utf8Encode := congrArg List.toByteArray same
    rw [← String.toByteArray_ofList, ← String.toByteArray_ofList, String.toByteArray_inj] at stored
    exact String.ofList_injective stored
  · exact congrArg encoded

/-- Only the first byte of a character can start one. -/
theorem eq_nil_of_starts_inside {b : UInt8} {bytes : List UInt8}
    (split : String.utf8EncodeChar c = front ++ b :: bytes) (first : b.IsUTF8FirstByte) :
    front = [] := by
  have within : front.length < (String.utf8EncodeChar c).length := by
    rw [split, List.length_append, List.length_cons]
    omega
  have here : (String.utf8EncodeChar c)[front.length] = b := by
    simp [split]
  have place : (String.utf8EncodeChar c)[front.length].IsUTF8FirstByte ↔ front.length = 0 :=
    UInt8.isUTF8FirstByte_getElem_utf8EncodeChar
  rw [here] at place
  exact List.length_eq_zero_iff.mp (place.mp first)

/-- Bytes before which a text may be cut: there are none, or the first one can start a character. -/
def Starts (bytes : List UInt8) : Prop :=
  ∀ b ∈ bytes.head?, b.IsUTF8FirstByte

/-- The bytes of a character start one. -/
theorem starts_character (c : Char) (rest : List UInt8) :
    Starts (String.utf8EncodeChar c ++ rest) := by
  intro b first
  obtain ⟨here, bytes, split⟩ := List.exists_cons_of_ne_nil (String.utf8EncodeChar_ne_nil (c := c))
  have place := UInt8.isUTF8FirstByte_getElem_zero_utf8EncodeChar (c := c)
  simp only [split, List.cons_append, List.head?_cons, Option.mem_some, List.getElem_cons_zero]
    at first place
  exact first ▸ place

/-- Bytes of a text that are cut in front of the start of a character are the bytes of two texts. -/
theorem encoded_cut (cut : encoded cs = front ++ back) (starts : Starts back) :
    ∃ before behind, cs = before ++ behind ∧ encoded before = front ∧ encoded behind = back := by
  induction cs generalizing front with
  | nil =>
    obtain ⟨rfl, rfl⟩ := List.append_eq_nil_iff.mp cut.symm
    exact ⟨[], [], rfl, rfl, rfl⟩
  | cons c cs ih =>
    rw [encoded_cons] at cut
    rcases List.append_eq_append_iff.mp cut with ⟨more, rfl, rest⟩ | ⟨more, split, rest⟩
    · -- The cut lies behind the first character.
      obtain ⟨before, behind, rfl, rfl, rfl⟩ := ih rest
      exact ⟨c :: before, behind, rfl, encoded_cons c before, rfl⟩
    · cases more with
      | nil =>
        rw [List.append_nil] at split
        exact ⟨[c], cs, rfl, by rw [encoded_cons, split]; exact List.append_nil _, rest.symm⟩
      | cons b more =>
        -- Inside of a character no byte starts another one, so nothing lies in front of this one.
        have first : b.IsUTF8FirstByte := starts b (by rw [rest]; rfl)
        obtain rfl := eq_nil_of_starts_inside split first
        refine ⟨[], c :: cs, rfl, rfl, ?_⟩
        rw [encoded_cons, rest, split, List.nil_append]

/-- Bytes that start with those of a character are those of a text that starts with it. -/
theorem encoded_eq_append_iff {rest : List UInt8} :
    encoded cs = String.utf8EncodeChar c ++ rest ↔
      ∃ behind, cs = c :: behind ∧ encoded behind = rest := by
  constructor
  · intro same
    cases cs with
    | nil =>
      have none := (List.append_eq_nil_iff.mp same.symm).1
      exact absurd none String.utf8EncodeChar_ne_nil
    | cons d cs =>
      have decoded (c : Char) (rest : List UInt8) :
          (String.utf8EncodeChar c ++ rest).toByteArray.utf8DecodeChar? 0 = some c := by
        rw [List.toByteArray_append]
        exact ByteArray.utf8DecodeChar?_utf8EncodeChar_append
      rw [encoded_cons] at same
      have first : d = c := by
        have read := decoded d (encoded cs)
        rw [same, decoded] at read
        exact (Option.some.inj read).symm
      rw [first, List.append_cancel_left_eq] at same
      exact ⟨cs, by rw [first], same⟩
  · rintro ⟨behind, rfl, rfl⟩
    exact encoded_cons c behind

end QualityGates.Text
