import QualityGates.Json.Record
import QualityGates.Proofs.Json.Indented

/-!
# Records are read from indented JSON

Each reader of a shape gives what was written for a value of that shape, and a reader of floats
refuses the `null` that stands for a float without a finite value. What a reader of records gives is
told by what its fields become, member by member, and the first member that is refused decides.
-/

namespace QualityGates.Json

open Number (isDigit)

variable {σ α : Type} {reader : Reader α} {json : Json} {found : Option α} {tail : List Char}
  {p : Position} {depth : Nat}

/-! ## Values of a shape -/

/-- Where a value starts, nothing is passed in front of it. -/
theorem toValue_indented (level : Nat) (json : Json) (tail : List Char) (p : Position) :
    toValue ⟨(indented level json).toList ++ tail, p⟩ =
      .ok ⟨(indented level json).toList ++ tail, p⟩ := by
  obtain ⟨c, cs, form, here, _⟩ := indented_starts level json
  rw [form, List.cons_append]
  unfold toValue
  rw [skipSpaces_cons here]
  rfl

/-- A reader that moves to its value has to be looked at only from there on. -/
theorem gives_of_toValue {inside : Cursor → Except Error (α × Cursor)}
    (opens : ∀ c, reader c = (toValue c).bind inside)
    (gives : ∀ {tail : List Char} (level : Nat) (p : Position), EndsValue tail →
      Ends tail (inside ⟨(indented level json).toList ++ tail, p⟩) found) :
    Gives reader json found := by
  refine gives_of_skips (fun c => ?_) fun level p ends => ?_
  · rw [opens, opens]
    unfold toValue
    rw [skipSpaces_skipSpaces]
  · rw [opens, toValue_indented]
    exact gives level p ends

/-- A string is given as it was written. -/
theorem gives_readText (expected s : String) : Gives (readText expected) (.string s) (some s) := by
  refine gives_of_toValue (fun _ => rfl) fun {tail} level p _ => ?_
  obtain ⟨p', read⟩ := readString_quoted s tail (p.after '"')
  rw [indented_string, List.cons_append, List.append_assoc, List.singleton_append]
  exact ⟨p', read⟩

/-- A truth value is given as it was written. -/
theorem gives_readBool (b : Bool) : Gives readBool (.bool b) (some b) := by
  refine gives_of_toValue (fun _ => rfl) fun level p _ => ?_
  rw [indented_bool]
  cases b with
  | true => exact ⟨(((p.after 't').after 'r').after 'u').after 'e', rfl⟩
  | false => exact ⟨((((p.after 'f').after 'a').after 'l').after 's').after 'e', rfl⟩

/-- A number is found where its text starts. -/
theorem startsNumber_cons {c : Char} {cs : List Char} (starts : c = '-' ∨ isDigit c = true) :
    startsNumber ⟨c :: cs, p⟩ = true := by
  show (c == '-' || isDigit c) = true
  rw [Bool.or_eq_true, beq_iff_eq]
  exact starts

/-- A word is given as the count that was written. -/
theorem gives_readCount (n : UInt64) : Gives readCount (.number (.word n)) (some n.toNat) := by
  refine gives_of_toValue (fun _ => rfl) fun {tail} level p ends => ?_
  obtain ⟨⟨c, cs, form, starts⟩, reads⟩ := numberReadsAs_word n
  obtain ⟨p', read⟩ := reads tail p ends
  rw [form, List.cons_append] at read
  rw [indented, form, List.cons_append, if_pos (startsNumber_cons starts), read]
  exact ⟨p', rfl⟩

/-- A number is given as the float that it is read as. -/
theorem gives_readFloat {n n' : JsonNumber} (reads : NumberReadsAs n n') :
    Gives readFloat (.number n) (some n'.toFloat) := by
  refine gives_of_toValue (fun _ => rfl) fun {tail} level p ends => ?_
  obtain ⟨⟨c, cs, form, starts⟩, reads⟩ := reads
  obtain ⟨p', read⟩ := reads tail p ends
  rw [form, List.cons_append] at read
  rw [indented, form, List.cons_append, if_pos (startsNumber_cons starts), read]
  exact ⟨p', rfl⟩

/-- A float that is not finite is refused, as `null` is no float. -/
theorem gives_readFloat_none {x : Float} (infinite : x.isFinite = false) :
    Gives readFloat (.number (.float x)) none := by
  refine gives_of_toValue (fun _ => rfl) fun level p _ => ?_
  rw [indented_of_not_finite infinite, indented_null]
  exact ⟨_, rfl⟩

/-- A float is given back, as some float, exactly if it is finite. -/
theorem exists_gives_readFloat (x : Float) : ∃ found, Gives readFloat (.number (.float x)) found ∧
    (found.isSome = true ↔ x.isFinite = true) := by
  cases finite : x.isFinite with
  | true =>
    obtain ⟨y, reads⟩ := numberReadsAs_float finite
    exact ⟨some y, gives_readFloat reads, iff_of_true rfl rfl⟩
  | false => exact ⟨none, gives_readFloat_none finite, iff_of_false nofun nofun⟩

/-- The name of a choice gives the choice. -/
theorem gives_readChoice {choices : List (String × α)} {name : String} {choice : α}
    (known : choices.lookup name = some choice) :
    Gives (readChoice depth choices) (.string name) (some choice) := by
  refine gives_of_skips (fun c => ?_) fun {tail} level p ends => ?_
  · unfold readChoice
    rw [skipSpaces_skipSpaces]
  · obtain ⟨p', read⟩ := (gives_readText "variant identifier" name).unblanked level ends p
    refine ⟨p', ?_⟩
    rw [indented_string, List.cons_append] at read ⊢
    show (readText "variant identifier" _).bind _ = _
    rw [skipSpaces_cons (by decide), read]
    dsimp only [Except.bind]
    rw [known]
    rfl

/-- An object gives what it gives where a value may be lacking. -/
theorem gives_readOptional {members : List (String × Json)}
    (gives : Gives reader (.object members) found) :
    Gives (readOptional reader) (.object members) (found.map some) := by
  refine gives_of_skips (fun c => ?_) fun {tail} level p ends => ?_
  · unfold readOptional
    rw [skipSpaces_skipSpaces]
  · have given := gives.unblanked level ends p
    rw [indented_object] at given ⊢
    cases found with
    | some value =>
      obtain ⟨p', taken⟩ := given
      refine ⟨p', ?_⟩
      show (reader _).bind _ = _
      rw [skipSpaces_cons (by decide), taken]
      rfl
    | none =>
      obtain ⟨e, refused⟩ := given
      refine ⟨e, ?_⟩
      show (reader _).bind _ = _
      rw [skipSpaces_cons (by decide), refused]
      rfl

/-- An array gives what its elements give, unless one of them is refused. -/
theorem gives_readList {element : Nat → Reader α} {elements : List Json}
    {founds : List (Option α)} (deep : 1 < depth)
    (gives : List.Forall₂ (Gives (element (depth - 1))) elements founds) :
    Gives (readList depth element) (.array elements) (founds.mapM id) := by
  refine gives_of_toValue (fun _ => rfl) fun {tail} level p _ => ?_
  have given := readElements_elementsFrom level gives
    (Nat.lt_add_right 2 (length_lt_elementsFrom true level elements tail)) true [] tail
    (p.after '[')
  rw [indented_array]
  show Ends tail (if depth ≤ 1 then _ else (readElements (element (depth - 1))
    ((elementsFrom true level elements tail).length + 2) true []
    ⟨elementsFrom true level elements tail, p.after '['⟩).bind _) _
  rw [if_neg (Nat.not_le.mpr deep)]
  cases all : founds.mapM id with
  | some values =>
    rw [all] at given
    obtain ⟨p', taken⟩ := given
    refine ⟨p'.after ']', ?_⟩
    rw [taken]
    rfl
  | none =>
    rw [all] at given
    obtain ⟨e, refused⟩ := given
    refine ⟨e, ?_⟩
    rw [refused]
    rfl

/-! ## Records -/

/-- How a walk through an object ends: with fields in front of its closing brace, or with an
error. -/
def WalkEnds (tail : List Char) (walk : Walk σ) : Option σ → Prop
  | some fields => ∃ p, walk = .done fields ⟨'\x7d' :: tail, p⟩
  | none => ∃ e, walk = .failed e

/-- What the fields of a record become when the members of an object are read, each of them a field
that has not been read yet, up to the first one that is refused. -/
inductive Fills (shape : RecordShape σ α) : σ → List (String × Json) → Option σ → Prop where
  | done (fields : σ) : Fills shape fields [] (some fields)
  | taken {fields fields' : σ} {name : String} {json : Json} {more : List (String × Json)}
      {found : Option σ} (isField : shape.fields.contains name = true)
      (new : shape.has name fields = false)
      (gives : Gives (shape.read name fields) json (some fields'))
      (rest : Fills shape fields' more found) : Fills shape fields ((name, json) :: more) found
  | refused {fields : σ} {name : String} {json : Json} {more : List (String × Json)}
      (isField : shape.fields.contains name = true) (new : shape.has name fields = false)
      (gives : Gives (shape.read name fields) json none) :
      Fills shape fields ((name, json) :: more) none

/-- A member is read where its name starts. -/
theorem walkObject_member {shape : RecordShape σ α} {fields : σ} {name : String} {next : Option σ}
    (isField : shape.fields.contains name = true) (new : shape.has name fields = false)
    (gives : Gives (shape.read name fields) json next) (level fuel : Nat) (first : Bool)
    (more : List (String × Json)) (tail : List Char) (p : Position) :
    match next with
    | some fields' => ∃ p', shape.walkObject (fuel + 1) first fields
          ⟨membersFrom first level ((name, json) :: more) tail, p⟩ =
        shape.walkObject fuel false fields' ⟨membersFrom false level more tail, p'⟩
    | none => ∃ e, shape.walkObject (fuel + 1) first fields
          ⟨membersFrom first level ((name, json) :: more) tail, p⟩ = .failed e := by
  obtain ⟨p₁, here⟩ := nextName_cons first level name json more tail p
  obtain ⟨p₂, named⟩ := readString_memberChars (level + 1) name json
    (membersFrom false level more tail) (p₁.after '"')
  have given := gives.blanked (level + 1) (endsValue_membersFrom level more tail) (p₂.after ':')
  rw [RecordShape.walkObject, here]
  dsimp only [Cursor.next]
  rw [named]
  dsimp only
  rw [if_pos isField, if_neg (by rw [new]; exact Bool.false_ne_true), readColon_colon]
  dsimp only [Except.bind]
  cases next with
  | some fields' =>
    obtain ⟨p₃, taken⟩ := given
    rw [taken]
    exact ⟨p₃, rfl⟩
  | none =>
    obtain ⟨e, refused⟩ := given
    rw [refused]
    exact ⟨e, rfl⟩

/-- The walk through an object makes of the fields what its members do. -/
theorem walkObject_membersFrom {shape : RecordShape σ α} {fields : σ}
    {members : List (String × Json)} {found : Option σ} (level : Nat) {fuel : Nat}
    (fills : Fills shape fields members found) (enough : members.length < fuel) (first : Bool)
    (tail : List Char) (p : Position) :
    WalkEnds tail
      (shape.walkObject fuel first fields ⟨membersFrom first level members tail, p⟩) found := by
  induction fills generalizing fuel first p with
  | done fields =>
    obtain ⟨fuel, rfl⟩ := Nat.exists_eq_succ_of_ne_zero (Nat.ne_of_gt enough)
    obtain ⟨p', ended⟩ := nextName_nil first level tail p
    refine ⟨p', ?_⟩
    rw [RecordShape.walkObject, ended]
  | @taken fields fields' name json more found isField new gives _ ih =>
    obtain ⟨fuel, rfl⟩ := Nat.exists_eq_succ_of_ne_zero (Nat.ne_of_gt (Nat.zero_lt_of_lt enough))
    obtain ⟨p', step⟩ := walkObject_member isField new gives level fuel first more tail p
    rw [step]
    exact ih (Nat.lt_of_succ_lt_succ enough) false p'
  | @refused fields name json more isField new gives =>
    obtain ⟨fuel, rfl⟩ := Nat.exists_eq_succ_of_ne_zero (Nat.ne_of_gt (Nat.zero_lt_of_lt enough))
    exact walkObject_member isField new gives level fuel first more tail p

/-- An object gives the record that its members make. -/
theorem gives_record {shape : RecordShape σ α} {members : List (String × Json)}
    {fields : Option σ} (deep : 1 < depth) (fills : Fills shape shape.start members fields) :
    Gives (shape.reader depth) (.object members) (fields.bind shape.make) := by
  refine gives_of_toValue (fun _ => rfl) fun {tail} level p _ => ?_
  have walked := walkObject_membersFrom level fills
    (Nat.lt_add_right 2 (length_lt_membersFrom true level members tail)) true tail
    (p.after '\x7b')
  rw [indented_object]
  show Ends tail (if depth ≤ 1 then _ else shape.close endObject (shape.walkObject
    ((membersFrom true level members tail).length + 2) true shape.start
    ⟨membersFrom true level members tail, p.after '\x7b'⟩)) _
  rw [if_neg (Nat.not_le.mpr deep)]
  cases fields with
  | some fields =>
    obtain ⟨p', done⟩ := walked
    rw [done, RecordShape.close, Option.bind_some]
    cases shape.make fields with
    | some record => exact ⟨p'.after '\x7d', rfl⟩
    | none => exact ⟨_, rfl⟩
  | none =>
    obtain ⟨e, failed⟩ := walked
    rw [failed]
    exact ⟨e, rfl⟩

end QualityGates.Json
