import QualityGates.Proofs.Json.Indented
import QualityGates.Proofs.Json.Members

/-!
# Indented JSON is read back

What the indented form of a value is read as is told by what the parts of the value are read as, so
there is one lemma for each kind of value. Only floats may be read as other floats, and those
without a finite value are read as `null`.
-/

namespace QualityGates.Json

open Number (isDigit)

variable {depth : Nat} {json value : Json} {tail : List Char} {p : Position}

/-! ## Values -/

/-- Whether the indented form of a value is read as some value, inside at most `depth - 1` open
brackets. -/
def ReadsAs (depth : Nat) (json value : Json) : Prop :=
  Gives (readValue depth) json (some value)

/-- Blanks in front of a value are passed. -/
theorem readsAs_of_reads
    (reads : ∀ {tail : List Char} (level : Nat) (p : Position), EndsValue tail →
    ∃ p', readValue (depth + 1) ⟨(indented level json).toList ++ tail, p⟩ =
      .ok (value, ⟨tail, p'⟩)) : ReadsAs (depth + 1) json value := by
  refine gives_of_skips (fun c => ?_) reads
  rw [readValue, readValue, skipSpaces_skipSpaces]

/-- The form of `null` is read as it. -/
theorem readsAs_null : ReadsAs (depth + 1) .null .null := by
  refine readsAs_of_reads fun level p _ => ?_
  rw [indented_null]
  exact ⟨(((p.after 'n').after 'u').after 'l').after 'l', rfl⟩

/-- The form of a truth value is read as it. -/
theorem readsAs_bool (b : Bool) : ReadsAs (depth + 1) (.bool b) (.bool b) := by
  refine readsAs_of_reads fun level p _ => ?_
  rw [indented_bool]
  cases b with
  | true => exact ⟨(((p.after 't').after 'r').after 'u').after 'e', rfl⟩
  | false => exact ⟨((((p.after 'f').after 'a').after 'l').after 's').after 'e', rfl⟩

/-- The form of a string is read as it. -/
theorem readsAs_string (s : String) : ReadsAs (depth + 1) (.string s) (.string s) := by
  refine readsAs_of_reads fun {tail} level p _ => ?_
  obtain ⟨p', read⟩ := readString_quoted s tail (p.after '"')
  refine ⟨p', ?_⟩
  rw [indented_string, List.cons_append, List.append_assoc, List.singleton_append]
  show (readString ⟨_, p.after '"'⟩).map _ = _
  rw [read]
  rfl

/-- A value that starts with a digit or a minus sign is a number. -/
theorem readValue_number {c : Char} {cs : List Char} (starts : c = '-' ∨ isDigit c = true) :
    readValue (depth + 1) ⟨c :: cs, p⟩ =
      (readNumber ⟨c :: cs, p⟩).map fun (n, after) => (.number n, after) := by
  rw [readValue]
  dsimp only
  rw [skipSpaces_cons (number_starts_not_space starts)]
  split
  case h_1 empty => cases empty
  case h_8 d ds _ _ _ _ _ _ same =>
    obtain ⟨rfl, rfl⟩ := List.cons.inj same
    rcases starts with minus | digit
    · rw [if_pos (by rw [minus]; decide)]
    · rw [if_pos (by rw [digit, Bool.or_true])]
  all_goals
    rename_i same
    exact absurd (List.cons.inj same).1 (number_starts_ne starts (by decide))

/-- A number whose text is read as a number is read as that one. -/
theorem readsAs_number {n n' : JsonNumber} (reads : NumberReadsAs n n') :
    ReadsAs (depth + 1) (.number n) (.number n') := by
  refine readsAs_of_reads fun {tail} level p ends => ?_
  obtain ⟨c, cs, form, starts⟩ := reads.starts
  obtain ⟨p', read⟩ := reads.reads tail p ends
  refine ⟨p', ?_⟩
  rw [form] at read
  rw [indented, form, List.cons_append, readValue_number starts, ← List.cons_append, read]
  rfl

/-- The form of a word is read as it. -/
theorem readsAs_word (n : UInt64) : ReadsAs (depth + 1) (.number (.word n)) (.number (.word n)) :=
  readsAs_number (numberReadsAs_word n)

/-- The form of a float is read as some float, or as `null` if it is not finite. -/
theorem readsAs_float (depth : Nat) (x : Float) :
    ∃ value, ReadsAs (depth + 1) (.number (.float x)) value ∧
      if x.isFinite then ∃ y, value = .number (.float y) else value = .null := by
  cases finite : x.isFinite with
  | true =>
    obtain ⟨y, reads⟩ := numberReadsAs_float finite
    exact ⟨.number (.float y), readsAs_number reads, y, rfl⟩
  | false =>
    refine ⟨.null, readsAs_of_reads fun level p ends => ?_, rfl⟩
    rw [indented_of_not_finite finite]
    exact Gives.unblanked readsAs_null level ends p

/-! ## Arrays -/

/-- Elements that are all found are all there is. -/
theorem mapM_id_map_some {α : Type} (values : List α) :
    (values.map some).mapM id = some values := by
  induction values with
  | nil => rfl
  | cons value values ih =>
    rw [List.map_cons, List.mapM_cons, ih]
    rfl

/-- The form of an array is read as one with what its elements are read as. -/
theorem readsAs_array {elements values : List Json} (inner : depth ≠ 0)
    (reads : List.Forall₂ (ReadsAs depth) elements values) :
    ReadsAs (depth + 1) (.array elements) (.array values) := by
  refine readsAs_of_reads fun {tail} level p _ => ?_
  let inside := elementsFrom true level elements tail
  have given := readElements_elementsFrom level (List.forall₂_map_right_iff.mpr reads)
    (Nat.lt_add_right 2 (length_lt_elementsFrom true level elements tail)) true [] tail
    (p.after '[')
  rw [mapM_id_map_some] at given
  obtain ⟨p', taken⟩ := given
  refine ⟨p'.after ']', ?_⟩
  rw [indented_array]
  show (if depth = 0 then _ else (readElements (readValue depth) (inside.length + 1 + 1) true []
    ⟨inside, p.after '['⟩).map _) = _
  rw [if_neg inner, taken]
  rfl

/-! ## Objects -/

/-- Members that are read have the names that are written. -/
def MemberReadsAs (depth : Nat) (member member' : String × Json) : Prop :=
  member.1 = member'.1 ∧ ReadsAs depth member.2 member'.2

/-- A member is read when its value is. -/
theorem ReadsAs.named (reads : ReadsAs depth json value) (name : String) :
    MemberReadsAs depth (name, json) (name, value) :=
  ⟨rfl, reads⟩

/-- Members are read up to the closing brace. -/
theorem readMembers_membersFrom (level : Nat) {fuel : Nat} {members members' : List (String × Json)}
    (reads : List.Forall₂ (MemberReadsAs depth) members members')
    (enough : members.length < fuel) (first : Bool) (read : List (String × Json))
    (tail : List Char) (p : Position) :
    ∃ p', readMembers (readValue depth) fuel first read
      ⟨membersFrom first level members tail, p⟩ =
        .ok (read.reverse ++ members', ⟨'\x7d' :: tail, p'⟩) := by
  induction reads generalizing fuel first read p with
  | nil =>
    obtain ⟨fuel, rfl⟩ := Nat.exists_eq_succ_of_ne_zero (Nat.ne_of_gt enough)
    obtain ⟨p', ended⟩ := nextName_nil first level tail p
    refine ⟨p', ?_⟩
    rw [readMembers, ended, List.append_nil]
  | @cons member member' members members' reads _ ih =>
    obtain ⟨fuel, rfl⟩ := Nat.exists_eq_succ_of_ne_zero (Nat.ne_of_gt (Nat.zero_lt_of_lt enough))
    obtain ⟨name, json⟩ := member
    obtain ⟨name', value⟩ := member'
    obtain ⟨rfl, reads⟩ := reads
    obtain ⟨p₁, here⟩ := nextName_cons first level name json members tail p
    obtain ⟨p₂, named⟩ := readString_memberChars (level + 1) name json
      (membersFrom false level members tail) (p₁.after '"')
    obtain ⟨p₃, taken⟩ := Gives.blanked reads (level + 1)
      (endsValue_membersFrom level members tail) (p₂.after ':')
    obtain ⟨p₄, rest⟩ := ih (Nat.lt_of_succ_lt_succ enough) false ((name, value) :: read) p₃
    refine ⟨p₄, ?_⟩
    rw [readMembers, here]
    dsimp only [Cursor.next]
    rw [named]
    dsimp only
    rw [readColon_colon]
    dsimp only
    rw [taken]
    dsimp only
    rw [rest, List.reverse_cons, List.append_assoc, List.singleton_append]

/-- The form of an object is read as one with its names and with what their values are read as. -/
theorem readsAs_object {members members' : List (String × Json)} (inner : depth ≠ 0)
    (reads : List.Forall₂ (MemberReadsAs depth) members members') :
    ReadsAs (depth + 1) (.object members) (.object (mergeMembers members')) := by
  refine readsAs_of_reads fun {tail} level p _ => ?_
  let inside := membersFrom true level members tail
  obtain ⟨p', taken⟩ := readMembers_membersFrom level reads
    (Nat.lt_add_right 2 (length_lt_membersFrom true level members tail)) true [] tail
    (p.after '\x7b')
  refine ⟨p'.after '\x7d', ?_⟩
  rw [indented_object]
  show (if depth = 0 then _ else (readMembers (readValue depth) (inside.length + 1 + 1) true []
    ⟨inside, p.after '\x7b'⟩).map _) = _
  rw [if_neg inner, taken]
  rfl

/-! ## Documents -/

/-- A value that is written alone in a text is what the text is read as. -/
theorem ofText_pretty (reads : ReadsAs depthLimit json value) :
    ofText (json.pretty ++ "\n") = .ok value :=
  Except.toOption_eq_some_iff.mp (readAll_pretty reads)

end QualityGates.Json
