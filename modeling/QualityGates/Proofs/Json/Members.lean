import QualityGates.Json.Reader
import QualityGates.Proofs.Result
import QualityGates.Proofs.Table

/-!
# Members of JSON objects, as written and as kept

In the text of an object a name may stand several times. `writtenMembers` reads the members as they
are written; the object that a text holds keeps each name where it first stands
(`mergeMembers_names`) with the value that was written last (`lookup_mergeMembers`).
-/

namespace QualityGates.Json

variable {α : Type}

/-- Setting a member decides its own value and no other one. -/
theorem lookup_setMember (name other : String) (value : α) (members : List (String × α)) :
    (setMember name value members).lookup other =
      if other = name then some value else members.lookup other := by
  induction members with
  | nil => rw [setMember, lookup_cons_ite]
  | cons member members ih =>
    obtain ⟨first, old⟩ := member
    by_cases here : first = name
    · rw [setMember, if_pos here, lookup_cons_ite, lookup_cons_ite, here]
      by_cases same : other = name
      · rw [if_pos same, if_pos same]
      · rw [if_neg same, if_neg same, if_neg same]
    · rw [setMember, if_neg here, lookup_cons_ite, lookup_cons_ite, ih]
      by_cases same : other = first
      · rw [if_pos same, if_pos same, if_neg (same ▸ here)]
      · rw [if_neg same, if_neg same]

/-- Setting a member adds its name at the end, unless it is known. -/
theorem setMember_names (name : String) (value : α) (members : List (String × α)) :
    (setMember name value members).map Prod.fst =
      members.map Prod.fst ++ if name ∈ members.map Prod.fst then [] else [name] := by
  induction members with
  | nil => rfl
  | cons member members ih =>
    obtain ⟨first, old⟩ := member
    by_cases here : first = name
    · simp [setMember, here]
    · rw [setMember, if_neg here, List.map_cons, List.map_cons, ih, List.cons_append]
      congr 2
      simp only [List.mem_cons, Ne.symm here, false_or]

/-- Setting further members leaves the known names in front and adds the new ones in the order in
which they first come. -/
theorem foldl_setMember_names (written known : List (String × α)) :
    (written.foldl (fun known item => setMember item.1 item.2 known) known).map Prod.fst =
      known.map Prod.fst ++ ((written.map Prod.fst).filter
        fun name => !(known.map Prod.fst).contains name).eraseDups := by
  induction written generalizing known with
  | nil => simp
  | cons item written ih =>
    obtain ⟨name, value⟩ := item
    rw [List.foldl_cons, ih, setMember_names]
    by_cases old : name ∈ known.map Prod.fst
    · rw [if_pos old, List.append_nil, List.map_cons,
        List.filter_cons_of_neg (by simpa using old)]
    · rw [if_neg old, List.map_cons, List.filter_cons_of_pos (by simpa using old),
        List.eraseDups_cons, List.filter_filter, List.append_assoc, List.singleton_append]
      congr 3
      apply List.filter_congr
      intro other _
      rw [List.contains_append, Bool.not_or, Bool.and_comm]
      by_cases same : other = name <;> simp [same]

/-- The names of an object are those that are written, each where it first stands. -/
theorem mergeMembers_names (written : List (String × α)) :
    (mergeMembers written).map Prod.fst = (written.map Prod.fst).eraseDups := by
  unfold mergeMembers
  rw [foldl_setMember_names, List.map_nil, List.nil_append]
  congr 1
  exact List.filter_eq_self.mpr fun name _ => rfl

/-- Setting further members gives a name the value that comes last, or leaves what is known. -/
theorem lookup_foldl_setMember (written known : List (String × α)) (name : String) :
    (written.foldl (fun known item => setMember item.1 item.2 known) known).lookup name =
      (written.reverse.lookup name).or (known.lookup name) := by
  induction written generalizing known with
  | nil => rfl
  | cons item written ih =>
    obtain ⟨first, value⟩ := item
    rw [List.foldl_cons, ih, lookup_setMember, List.reverse_cons, List.lookup_append,
      lookup_cons_ite, Option.or_assoc]
    by_cases same : name = first
    · rw [if_pos same, if_pos same, Option.some_or]
    · rw [if_neg same, if_neg same, List.lookup_nil, Option.none_or]

/-- The value of a name is the one that is written last. -/
theorem lookup_mergeMembers (written : List (String × α)) (name : String) :
    (mergeMembers written).lookup name = written.reverse.lookup name := by
  unfold mergeMembers
  rw [lookup_foldl_setMember, List.lookup_nil, Option.or_none]

/-- Setting a member keeps the names different. -/
theorem setMember_nodup {name : String} {value : α} {members : List (String × α)}
    (nodup : (members.map Prod.fst).Nodup) :
    ((setMember name value members).map Prod.fst).Nodup := by
  rw [setMember_names]
  by_cases old : name ∈ members.map Prod.fst
  · rw [if_pos old, List.append_nil]
    exact nodup
  · rw [if_neg old, List.nodup_append]
    refine ⟨nodup, List.nodup_cons.mpr ⟨List.not_mem_nil, List.nodup_nil⟩, ?_⟩
    intro first firstIn second secondIn same
    rw [List.mem_singleton] at secondIn
    exact old (by rw [← secondIn, ← same]; exact firstIn)

/-- An object has each name once. -/
theorem mergeMembers_nodup (written : List (String × α)) :
    ((mergeMembers written).map Prod.fst).Nodup := by
  have grow : ∀ known : List (String × α), (known.map Prod.fst).Nodup →
      ((written.foldl (fun known item => setMember item.1 item.2 known) known).map
        Prod.fst).Nodup := by
    induction written with
    | nil => exact fun known nodup => nodup
    | cons item written ih => exact fun known nodup => ih _ (setMember_nodup nodup)
  exact grow [] List.nodup_nil

/-- The last of some members with a name. -/
def LastMember (written : List (String × α)) (name : String) (value : α) : Prop :=
  ∃ before after, written = before ++ (name, value) :: after ∧ name ∉ after.map Prod.fst

/-- Looking from behind finds the last member with a name. -/
theorem lookup_reverse_iff {written : List (String × α)} {name : String} {value : α} :
    written.reverse.lookup name = some value ↔ LastMember written name value := by
  induction written with
  | nil => exact ⟨fun h => by simp at h, fun ⟨_, _, h, _⟩ => by simp at h⟩
  | cons item written ih =>
    obtain ⟨first, old⟩ := item
    rw [List.reverse_cons, List.lookup_append, Option.or_eq_some_iff, ih]
    constructor
    · rintro (⟨before, after, rfl, last⟩ | ⟨absent, here⟩)
      · exact ⟨(first, old) :: before, after, rfl, last⟩
      · by_cases same : name = first
        · refine ⟨[], written, ?_, ?_⟩
          · rw [lookup_cons_ite, if_pos same] at here
            rw [same, Option.some.inj here, List.nil_append]
          · rw [List.lookup_eq_none_iff] at absent
            intro member
            obtain ⟨other, otherIn, rfl⟩ := List.mem_map.mp member
            simpa using absent other (List.mem_reverse.mpr otherIn)
        · rw [lookup_cons_ite, if_neg same] at here
          cases here
    · rintro ⟨before, after, split, last⟩
      cases before with
      | nil =>
        obtain ⟨⟨rfl, rfl⟩, rfl⟩ : (first = name ∧ old = value) ∧ written = after := by
          simpa using split
        refine .inr ⟨?_, by simp⟩
        rw [List.lookup_eq_none_iff]
        intro other otherIn
        rw [List.mem_reverse] at otherIn
        simpa using fun same => last (List.mem_map.mpr ⟨other, otherIn, same.symm⟩)
      | cons member before =>
        rw [List.cons_append, List.cons.injEq] at split
        exact .inl ⟨before, after, split.2, last⟩

/-! ## The object in a text -/

/-- Reads an object and keeps its members as they are written. -/
def readWritten (c : Cursor) : Except Error (List (String × Json) × Cursor) :=
  let c := c.skipSpaces
  match c.rest with
  | '\x7b' :: _ =>
    (readMembers (readValue (depthLimit - 1)) (c.rest.length + 1) true [] c.next).map
      fun (members, c) => (members, c.next)
  | _ => c.failPeeked .expectedValue

/-- The members of the object that stands alone in a text, as they are written. -/
def writtenMembers (s : String) : Except Error (List (String × Json)) :=
  readAll readWritten s

/-- An object starts with a brace. -/
theorem brace_of_readValue {c after : Cursor} {members : List (String × Json)}
    (read : readValue depthLimit c = .ok (object members, after)) :
    ∃ rest, c.skipSpaces.rest = '\x7b' :: rest := by
  rw [show depthLimit = 127 + 1 from rfl, readValue] at read
  dsimp only at read
  split at read
  case h_7 rest there => exact ⟨rest, there⟩
  case h_1 => cases read
  case h_6 =>
    rw [if_neg (by decide)] at read
    obtain ⟨_, _, built⟩ := Except.map_eq_ok_iff.mp read
    cases built
  case h_8 =>
    split at read
    · obtain ⟨_, _, built⟩ := Except.map_eq_ok_iff.mp read
      cases built
    · cases read
  all_goals
    obtain ⟨_, _, built⟩ := Except.map_eq_ok_iff.mp read
    cases built

/-- Members are written behind a brace. -/
theorem brace_of_readWritten {c after : Cursor} {written : List (String × Json)}
    (read : readWritten c = .ok (written, after)) :
    ∃ rest, c.skipSpaces.rest = '\x7b' :: rest := by
  unfold readWritten at read
  dsimp only at read
  split at read
  · rename_i rest there
    exact ⟨rest, there⟩
  · cases read

/-- Behind a brace, a value is an object with the members that are written. -/
theorem readValue_of_brace {c : Cursor} {rest : List Char}
    (brace : c.skipSpaces.rest = '\x7b' :: rest) :
    readValue depthLimit c =
      (readWritten c).map fun (written, after) => (object (mergeMembers written), after) := by
  unfold readWritten
  rw [show depthLimit = 127 + 1 from rfl, readValue]
  simp only [brace]
  rw [if_neg (by decide)]
  cases readMembers (readValue 127) (('\x7b' :: rest).length + 1) true [] c.skipSpaces.next <;> rfl

/-- Reading a value gives an object exactly where members are written, and those are the ones that
it keeps. -/
theorem readValue_object_iff {c after : Cursor} {members : List (String × Json)} :
    readValue depthLimit c = .ok (object members, after) ↔
      ∃ written, readWritten c = .ok (written, after) ∧ members = mergeMembers written := by
  constructor
  · intro read
    obtain ⟨rest, brace⟩ := brace_of_readValue read
    rw [readValue_of_brace brace] at read
    obtain ⟨⟨written, _⟩, found, built⟩ := Except.map_eq_ok_iff.mp read
    cases built
    exact ⟨written, found, rfl⟩
  · rintro ⟨written, found, rfl⟩
    obtain ⟨rest, brace⟩ := brace_of_readWritten found
    rw [readValue_of_brace brace, found]
    rfl

/-- A reading that stands alone is one after which only blanks follow. -/
theorem readAll_eq_ok_iff {reader : Reader α} {s : String} {value : α} :
    readAll reader s = .ok value ↔
      ∃ after, reader (Cursor.start s.toList) = .ok (value, after) ∧
        after.skipSpaces.rest = [] := by
  unfold readAll
  cases reader (Cursor.start s.toList) with
  | error e => exact ⟨fun h => (nomatch h), fun ⟨_, h, _⟩ => (nomatch h)⟩
  | ok found =>
    obtain ⟨read, after⟩ := found
    show (if after.skipSpaces.rest.isEmpty then _ else _) = _ ↔ _
    by_cases finished : after.skipSpaces.rest = []
    · rw [if_pos (by rw [finished]; rfl)]
      exact ⟨fun h => by cases h; exact ⟨after, rfl, finished⟩,
        fun ⟨_, h, _⟩ => by cases h; rfl⟩
    · rw [if_neg (by simpa using finished)]
      refine ⟨fun h => (nomatch h), fun ⟨_, h, finished'⟩ => ?_⟩
      cases h
      exact absurd finished' finished

/-- The object that a text holds keeps the members that are written there. -/
theorem ofText_object_iff {s : String} {members : List (String × Json)} :
    ofText s = .ok (object members) ↔
      ∃ written, writtenMembers s = .ok written ∧ members = mergeMembers written := by
  unfold ofText writtenMembers
  simp only [readAll_eq_ok_iff, readValue_object_iff]
  constructor
  · rintro ⟨after, ⟨written, found, same⟩, finished⟩
    exact ⟨written, ⟨after, found, finished⟩, same⟩
  · rintro ⟨written, ⟨after, found, finished⟩, same⟩
    exact ⟨after, ⟨written, found, same⟩, finished⟩

end QualityGates.Json
