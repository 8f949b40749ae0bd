import QualityGates.Json.Printer
import QualityGates.Json.Reader
import QualityGates.Proofs.Json.FloatLiteral
import QualityGates.Proofs.Json.Quoted
import QualityGates.Proofs.Number.Finite

/-!
# Readers at indented JSON

A reader that stands in front of the indented form of a value either takes the whole form or refuses
it, whatever comes behind. `Gives` says which, for readers of values and of records alike, and what
a reader gives for an array is what it gives for its elements.
-/

namespace QualityGates.Json

open Number (isDigit)

variable {α : Type} {reader : Reader α} {json : Json} {found : Option α} {tail : List Char}
  {p : Position}

/-! ## Blanks -/

/-- Blanks in front of something else are passed. -/
theorem skipSpaces_append {spaces : List Char} {c : Char} (cs : List Char)
    (blank : ∀ d ∈ spaces, Cursor.isSpace d = true) (here : Cursor.isSpace c = false)
    (p : Position) :
    ∃ p', Cursor.skipSpaces ⟨spaces ++ c :: cs, p⟩ = ⟨c :: cs, p'⟩ := by
  unfold Cursor.skipSpaces
  dsimp only
  induction spaces generalizing p with
  | nil =>
    refine ⟨p, ?_⟩
    rw [List.nil_append, Cursor.skipFrom, here]
    rfl
  | cons d spaces ih =>
    rw [List.forall_mem_cons] at blank
    rw [List.cons_append, Cursor.skipFrom, if_pos blank.1]
    exact ih blank.2 _

/-- Where there is no blank, none is passed. -/
theorem skipSpaces_cons {c : Char} {cs : List Char} (here : Cursor.isSpace c = false) :
    Cursor.skipSpaces ⟨c :: cs, p⟩ = ⟨c :: cs, p⟩ := by
  unfold Cursor.skipSpaces
  rw [Cursor.skipFrom, here]
  rfl

/-- A line break starts with a line feed. -/
theorem newline_toList (level : Nat) :
    (newline level).toList = '\n' :: List.replicate (2 * level) ' ' := by
  unfold newline
  simp only [String.toList_append, String.toList_ofList]
  rfl

/-- A line break and its indentation are passed. -/
theorem skipSpaces_newline (level : Nat) {c : Char} (cs : List Char)
    (here : Cursor.isSpace c = false) (p : Position) :
    ∃ p', Cursor.skipSpaces ⟨(newline level).toList ++ c :: cs, p⟩ = ⟨c :: cs, p'⟩ := by
  refine skipSpaces_append cs (fun d member => ?_) here p
  rw [newline_toList] at member
  rcases List.mem_cons.mp member with rfl | blank
  · rfl
  · rw [(List.mem_replicate.mp blank).2]
    rfl

/-- A value is ended by a line break. -/
theorem endsValue_newline (level : Nat) (tail : List Char) :
    EndsValue ((newline level).toList ++ tail) := by
  rw [newline_toList]
  rintro c cs ⟨⟩
  exact .inr rfl

/-- Blanks are passed at once. -/
theorem skipSpaces_skipSpaces (c : Cursor) : c.skipSpaces.skipSpaces = c.skipSpaces := by
  obtain ⟨cs, p⟩ := c
  unfold Cursor.skipSpaces
  dsimp only
  induction cs generalizing p with
  | nil => rfl
  | cons d cs ih =>
    rw [Cursor.skipFrom]
    by_cases blank : Cursor.isSpace d = true
    · rw [if_pos blank]
      exact ih _
    · rw [if_neg blank]
      dsimp only
      rw [Cursor.skipFrom, if_neg blank]

/-! ## Where a value starts -/

/-- The characters of a quoted string. -/
theorem quote_toList (s : String) :
    (quote s).toList = '"' :: (s.toList.flatMap escapeChar ++ ['"']) :=
  String.toList_ofList

/-- What starts a number is none of the other characters. -/
theorem number_starts_ne {c d : Char} (starts : c = '-' ∨ isDigit c = true)
    (other : (d == '-' || isDigit d) = false) : c ≠ d := by
  rintro rfl
  rw [Bool.or_eq_false_iff, beq_eq_false_iff_ne] at other
  rcases starts with minus | digit
  · exact other.1 minus
  · exact Bool.false_ne_true (other.2.symm.trans digit)

/-- What starts a number is no blank. -/
theorem number_starts_not_space {c : Char} (starts : c = '-' ∨ isDigit c = true) :
    Cursor.isSpace c = false := by
  unfold Cursor.isSpace
  rw [beq_eq_false_iff_ne.mpr (number_starts_ne starts (d := ' ') (by decide)),
    beq_eq_false_iff_ne.mpr (number_starts_ne starts (d := '\n') (by decide)),
    beq_eq_false_iff_ne.mpr (number_starts_ne starts (d := '\t') (by decide)),
    beq_eq_false_iff_ne.mpr (number_starts_ne starts (d := '\r') (by decide))]
  rfl

/-- Whether the text of a number is read as some number. -/
structure NumberReadsAs (n n' : JsonNumber) : Prop where
  /-- The text starts with a minus sign or a digit. -/
  starts : ∃ c cs, n.text.toList = c :: cs ∧ (c = '-' ∨ isDigit c = true)
  /-- The text is read as the number, whatever ends the value. -/
  reads : ∀ tail p, EndsValue tail →
    ∃ p', readNumber ⟨n.text.toList ++ tail, p⟩ = .ok (n', ⟨tail, p'⟩)

/-- Digits start with a digit. -/
theorem natText_starts (n : Nat) :
    ∃ c cs, (Number.natText n).toList = c :: cs ∧ (c = '-' ∨ isDigit c = true) := by
  obtain ⟨allDigits, c, cs, split, _⟩ := isWhole_toDigits n
  refine ⟨c, cs, ?_, .inr (allDigits c (by rw [split]; exact List.mem_cons_self))⟩
  unfold Number.natText
  rw [String.toList_ofList, split]

/-- The text of a word is read as it. -/
theorem numberReadsAs_word (n : UInt64) : NumberReadsAs (.word n) (.word n) := by
  refine ⟨natText_starts n.toNat, fun tail p ends => ?_⟩
  obtain ⟨p', read⟩ := readNumber_natText n.toNat_lt ends p
  rw [UInt64.ofNat_toNat] at read
  exact ⟨p', read⟩

/-- The text of a finite float is read as some float. -/
theorem numberReadsAs_float {x : Float} (finite : x.isFinite = true) :
    ∃ y, NumberReadsAs (.float x) (.float y) := by
  obtain ⟨text, written⟩ :=
    Option.isSome_iff_exists.mp ((Number.reportText?_isSome_iff x).mpr finite)
  obtain ⟨y, starts, reads⟩ := isFloatLiteral_reportText? written
  have form : (JsonNumber.float x).text = text := by
    show (Number.reportText? x).getD "null" = text
    rw [written]
    rfl
  rw [← form] at starts reads
  exact ⟨y, starts, reads⟩

/-- A float that is not finite is written as `null`. -/
theorem text_of_not_finite {x : Float} (infinite : x.isFinite = false) :
    (JsonNumber.float x).text = "null" := by
  have unwritten : Number.reportText? x = none := by
    rw [← Option.not_isSome_iff_eq_none, Number.reportText?_isSome_iff, infinite]
    exact Bool.false_ne_true
  show (Number.reportText? x).getD "null" = "null"
  rw [unwritten]
  rfl

/-- The text of a number starts with a minus sign or a digit, unless it is `null`. -/
theorem number_text_starts (n : JsonNumber) :
    n.text = "null" ∨ ∃ c cs, n.text.toList = c :: cs ∧ (c = '-' ∨ isDigit c = true) := by
  cases n with
  | word n => exact .inr (numberReadsAs_word n).starts
  | negative n =>
    right
    show ∃ c cs, (Number.signText (decide (n.toInt < 0)) ++ Number.natText _).toList = _ ∧ _
    rw [String.toList_append]
    cases decide (n.toInt < 0) with
    | true => exact ⟨'-', _, rfl, .inl rfl⟩
    | false => exact natText_starts _
  | float x =>
    cases finite : x.isFinite with
    | true =>
      obtain ⟨y, reads⟩ := numberReadsAs_float finite
      exact .inr reads.starts
    | false => exact .inl (text_of_not_finite finite)

/-! ## Forms -/

/-- The form of `null`. -/
theorem indented_null (level : Nat) : (indented level .null).toList = ['n', 'u', 'l', 'l'] := by
  rw [indented]
  rfl

/-- The form of a truth value. -/
theorem indented_bool (level : Nat) (b : Bool) : (indented level (.bool b)).toList =
    if b then ['t', 'r', 'u', 'e'] else ['f', 'a', 'l', 's', 'e'] := by
  cases b <;> rw [indented] <;> rfl

/-- The form of a string. -/
theorem indented_string (level : Nat) (s : String) : (indented level (.string s)).toList =
    '"' :: (s.toList.flatMap escapeChar ++ ['"']) := by
  rw [indented, quote_toList]

/-- A float that is not finite has the form of `null`. -/
theorem indented_of_not_finite {x : Float} (infinite : x.isFinite = false) (level : Nat) :
    indented level (.number (.float x)) = indented level .null := by
  rw [indented, indented, text_of_not_finite infinite]

/-- The form of a value starts with neither a blank nor a closing bracket. -/
theorem indented_starts (level : Nat) (json : Json) : ∃ c cs,
    (indented level json).toList = c :: cs ∧ Cursor.isSpace c = false ∧ c ≠ ']' := by
  cases json with
  | null => exact ⟨'n', _, indented_null level, rfl, by decide⟩
  | bool b =>
    rw [indented_bool]
    cases b with
    | true => exact ⟨'t', _, rfl, rfl, by decide⟩
    | false => exact ⟨'f', _, rfl, rfl, by decide⟩
  | number n =>
    rw [indented]
    obtain null | ⟨c, cs, split, starts⟩ := number_text_starts n
    · rw [null]
      exact ⟨'n', _, rfl, rfl, by decide⟩
    · exact ⟨c, cs, split, number_starts_not_space starts, number_starts_ne starts (by decide)⟩
  | string s => exact ⟨'"', _, indented_string level s, rfl, by decide⟩
  | array elements =>
    cases elements with
    | nil =>
      rw [indented]
      exact ⟨'[', _, rfl, rfl, by decide⟩
    | cons element more =>
      rw [indented]
      simp only [String.toList_append, List.append_assoc]
      exact ⟨'[', _, rfl, rfl, by decide⟩
  | object members =>
    cases members with
    | nil =>
      rw [indented]
      exact ⟨'\x7b', _, rfl, rfl, by decide⟩
    | cons member more =>
      obtain ⟨name, value⟩ := member
      rw [indented]
      simp only [String.toList_append, List.append_assoc]
      exact ⟨'\x7b', _, rfl, rfl, by decide⟩

/-! ## What a reader gives -/

/-- How a reading ends: with something in front of `tail`, or with an error. -/
def Ends (tail : List Char) (reading : Except Error (α × Cursor)) : Option α → Prop
  | some value => ∃ p, reading = .ok (value, ⟨tail, p⟩)
  | none => ∃ e, reading = .error e

/-- What a reader gives for the indented form of a value, behind any blanks and in front of
anything that ends the value. -/
structure Gives (reader : Reader α) (json : Json) (found : Option α) : Prop where
  /-- The reading ends with what is given, in front of what ends the value. -/
  ends : ∀ (blank : List Char) {tail : List Char} (level : Nat) (p : Position),
    (∀ d ∈ blank, Cursor.isSpace d = true) → EndsValue tail →
      Ends tail (reader ⟨blank ++ ((indented level json).toList ++ tail), p⟩) found

/-- A reader that passes blanks has to be looked at only where there are none. -/
theorem gives_of_skips (skips : ∀ c, reader c.skipSpaces = reader c)
    (gives : ∀ {tail : List Char} (level : Nat) (p : Position), EndsValue tail →
      Ends tail (reader ⟨(indented level json).toList ++ tail, p⟩) found) :
    Gives reader json found := by
  refine ⟨fun blank {tail} level p allBlank ends => ?_⟩
  obtain ⟨c, cs, form, here, _⟩ := indented_starts level json
  obtain ⟨p', skipped⟩ := skipSpaces_append (cs ++ tail) allBlank here p
  have given := gives level p' ends
  rw [form, List.cons_append] at given ⊢
  rw [← skips, skipped]
  exact given

/-- A reader that goes on from a value gives what is made of the value. -/
theorem Gives.map {β : Type} {reader' : Reader β} {f : α → β} (gives : Gives reader json found)
    (opens : ∀ c, reader' c = (reader c).bind fun (value, c) => .ok (f value, c)) :
    Gives reader' json (found.map f) := by
  refine ⟨fun blank {tail} level p allBlank ends => ?_⟩
  have given := gives.ends blank level p allBlank ends
  rw [opens]
  cases found with
  | some value =>
    obtain ⟨p', taken⟩ := given
    exact ⟨p', by rw [taken]; rfl⟩
  | none =>
    obtain ⟨e, refused⟩ := given
    exact ⟨e, by rw [refused]; rfl⟩

/-- Where there is no blank, a reader gives the same. -/
theorem Gives.unblanked (gives : Gives reader json found) (level : Nat) (ends : EndsValue tail)
    (p : Position) : Ends tail (reader ⟨(indented level json).toList ++ tail, p⟩) found :=
  gives.ends [] level p (fun _ member => nomatch member) ends

/-- Behind the blank of a member, a reader gives the same. -/
theorem Gives.blanked (gives : Gives reader json found) (level : Nat) (ends : EndsValue tail)
    (p : Position) :
    Ends tail (reader ⟨' ' :: ((indented level json).toList ++ tail), p⟩) found := by
  refine gives.ends [' '] level p (fun d member => ?_) ends
  rw [List.mem_singleton.mp member]
  rfl

/-! ## Arrays -/

/-- The text of an array behind its opening bracket, or behind an element. -/
def elementsFrom (first : Bool) (level : Nat) : List Json → (tail : List Char) → List Char
  | [], tail => if first then ']' :: tail else (newline level).toList ++ ']' :: tail
  | element :: more, tail =>
    let here := (newline (level + 1)).toList ++
      ((indented (level + 1) element).toList ++ elementsFrom false level more tail)
    if first then here else ',' :: here

/-- The form of an array. -/
theorem indented_array (level : Nat) (elements : List Json) (tail : List Char) :
    (indented level (.array elements)).toList ++ tail =
      '[' :: elementsFrom true level elements tail := by
  have behind (elements : List Json) : (indentedElements (level + 1) elements).toList ++
      ((newline level).toList ++ ']' :: tail) = elementsFrom false level elements tail := by
    induction elements with
    | nil =>
      rw [indentedElements]
      rfl
    | cons element more ih =>
      rw [indentedElements, elementsFrom, ← ih]
      simp only [String.toList_append, List.append_assoc]
      rfl
  cases elements with
  | nil =>
    rw [indented]
    rfl
  | cons element more =>
    rw [indented, elementsFrom, ← behind]
    simp only [String.toList_append, List.append_assoc]
    rfl

/-- An element is ended by a comma or a line break. -/
theorem endsValue_elementsFrom (level : Nat) (elements : List Json) (tail : List Char) :
    EndsValue (elementsFrom false level elements tail) := by
  cases elements with
  | nil => exact endsValue_newline level _
  | cons element more =>
    rintro c cs ⟨⟩
    exact .inl rfl

/-- Every element has a text of its own. -/
theorem length_lt_elementsFrom (first : Bool) (level : Nat) (elements : List Json)
    (tail : List Char) : elements.length < (elementsFrom first level elements tail).length := by
  induction elements generalizing first with
  | nil => cases first <;> simp [elementsFrom]
  | cons element more ih =>
    have others := ih false
    have line := newline_toList (level + 1)
    cases first <;> simp only [elementsFrom, line, reduceIte, Bool.false_eq_true,
      List.length_append, List.length_cons] <;> omega

/-- Behind the last element the end of the array is found. -/
theorem nextElement_nil (first : Bool) (level : Nat) (tail : List Char) (p : Position) :
    ∃ p', nextElement first ⟨elementsFrom first level [] tail, p⟩ =
      .ok (false, ⟨']' :: tail, p'⟩) := by
  cases first with
  | true => exact ⟨p, rfl⟩
  | false =>
    obtain ⟨p', skipped⟩ := skipSpaces_newline level tail (c := ']') (by decide) p
    refine ⟨p', ?_⟩
    show nextElement false ⟨(newline level).toList ++ ']' :: tail, p⟩ = _
    unfold nextElement
    rw [skipped]
    rfl

/-- The next element of an array is found where it starts. -/
theorem nextElement_cons (first : Bool) (level : Nat) (element : Json) (more : List Json)
    (tail : List Char) (p : Position) :
    ∃ p', nextElement first ⟨elementsFrom first level (element :: more) tail, p⟩ =
      .ok (true, ⟨(indented (level + 1) element).toList ++ elementsFrom false level more tail,
        p'⟩) := by
  obtain ⟨c, cs, form, here, going⟩ := indented_starts (level + 1) element
  have found (p : Position) := skipSpaces_newline (level + 1)
    (cs ++ elementsFrom false level more tail) here p
  rw [elementsFrom, form, List.cons_append]
  cases first with
  | true =>
    obtain ⟨p', skipped⟩ := found p
    refine ⟨p', ?_⟩
    rw [if_pos rfl]
    unfold nextElement
    rw [skipped]
    dsimp only
    split
    · rename_i empty
      cases empty
    · rename_i closing
      exact absurd (List.cons.inj closing).1 going
    · rfl
  | false =>
    obtain ⟨p', skipped⟩ := found (p.after ',')
    refine ⟨p', ?_⟩
    rw [if_neg Bool.false_ne_true]
    unfold nextElement
    rw [skipSpaces_cons (by decide)]
    dsimp only
    split
    · rename_i empty
      cases empty
    · rename_i closing
      exact absurd (List.cons.inj closing).1 (by decide)
    · rename_i d ds _ comma
      obtain ⟨rfl, rfl⟩ := List.cons.inj comma
      rw [if_neg Bool.false_ne_true, if_pos rfl]
      dsimp only [Cursor.next]
      rw [skipped]
      dsimp only
      split
      · rename_i empty
        cases empty
      · rename_i closing
        exact absurd (List.cons.inj closing).1 going
      · rfl

/-- Elements are read up to the closing bracket, or up to the first one that is refused. -/
theorem readElements_elementsFrom (level : Nat) {fuel : Nat} {elements : List Json}
    {founds : List (Option α)} (gives : List.Forall₂ (Gives reader) elements founds)
    (enough : elements.length < fuel) (first : Bool) (read : List α) (tail : List Char)
    (p : Position) :
    Ends (']' :: tail)
      (readElements reader fuel first read ⟨elementsFrom first level elements tail, p⟩)
      ((founds.mapM id).map (read.reverse ++ ·)) := by
  induction gives generalizing fuel first read p with
  | nil =>
    obtain ⟨fuel, rfl⟩ := Nat.exists_eq_succ_of_ne_zero (Nat.ne_of_gt enough)
    obtain ⟨p', ended⟩ := nextElement_nil first level tail p
    rw [readElements, ended]
    show Ends _ _ (some (read.reverse ++ []))
    rw [List.append_nil]
    exact ⟨p', rfl⟩
  | @cons element found elements founds gives _ ih =>
    obtain ⟨fuel, rfl⟩ := Nat.exists_eq_succ_of_ne_zero (Nat.ne_of_gt (Nat.zero_lt_of_lt enough))
    obtain ⟨p₁, here⟩ := nextElement_cons first level element elements tail p
    have given := gives.unblanked (level + 1) (endsValue_elementsFrom level elements tail) p₁
    rw [readElements, here, List.mapM_cons]
    dsimp only
    cases found with
    | none =>
      obtain ⟨e, refused⟩ := given
      rw [refused]
      exact ⟨e, rfl⟩
    | some value =>
      obtain ⟨p₂, taken⟩ := given
      have rest := ih (Nat.lt_of_succ_lt_succ enough) false (value :: read) p₂
      rw [taken]
      cases all : founds.mapM id with
      | none =>
        rw [all] at rest
        exact rest
      | some values =>
        rw [all, Option.map_some, List.reverse_cons, List.append_assoc,
          List.singleton_append] at rest
        exact rest

/-! ## Objects -/

/-- The characters of a member behind the quotation mark of its name. -/
def memberChars (level : Nat) (name : String) (value : Json) (behind : List Char) : List Char :=
  name.toList.flatMap escapeChar ++
    '"' :: ':' :: ' ' :: ((indented level value).toList ++ behind)

/-- The text of an object behind its opening brace, or behind a member. -/
def membersFrom (first : Bool) (level : Nat) :
    List (String × Json) → (tail : List Char) → List Char
  | [], tail => if first then '\x7d' :: tail else (newline level).toList ++ '\x7d' :: tail
  | (name, value) :: more, tail =>
    let here := (newline (level + 1)).toList ++
      '"' :: memberChars (level + 1) name value (membersFrom false level more tail)
    if first then here else ',' :: here

/-- The form of an object. -/
theorem indented_object (level : Nat) (members : List (String × Json)) (tail : List Char) :
    (indented level (.object members)).toList ++ tail =
      '\x7b' :: membersFrom true level members tail := by
  have behind (members : List (String × Json)) : (indentedMembers (level + 1) members).toList ++
      ((newline level).toList ++ '\x7d' :: tail) = membersFrom false level members tail := by
    induction members with
    | nil =>
      rw [indentedMembers]
      rfl
    | cons member more ih =>
      obtain ⟨name, value⟩ := member
      rw [indentedMembers, membersFrom, ← ih]
      simp only [String.toList_append, quote_toList, List.append_assoc, List.cons_append,
        List.nil_append]
      rfl
  cases members with
  | nil =>
    rw [indented]
    rfl
  | cons member more =>
    obtain ⟨name, value⟩ := member
    rw [indented, membersFrom, ← behind]
    simp only [String.toList_append, quote_toList, List.append_assoc, List.cons_append,
      List.nil_append]
    rfl

/-- A member is ended by a comma or a line break. -/
theorem endsValue_membersFrom (level : Nat) (members : List (String × Json)) (tail : List Char) :
    EndsValue (membersFrom false level members tail) := by
  cases members with
  | nil => exact endsValue_newline level _
  | cons member more =>
    rintro c cs ⟨⟩
    exact .inl rfl

/-- Every member has a text of its own. -/
theorem length_lt_membersFrom (first : Bool) (level : Nat) (members : List (String × Json))
    (tail : List Char) : members.length < (membersFrom first level members tail).length := by
  induction members generalizing first with
  | nil => cases first <;> simp [membersFrom]
  | cons member more ih =>
    have others := ih false
    cases first <;> simp only [membersFrom, memberChars, reduceIte, Bool.false_eq_true,
      List.length_append, List.length_cons] <;> omega

/-- Behind the last member the end of the object is found. -/
theorem nextName_nil (first : Bool) (level : Nat) (tail : List Char) (p : Position) :
    ∃ p', nextName first ⟨membersFrom first level [] tail, p⟩ =
      .ok (false, ⟨'\x7d' :: tail, p'⟩) := by
  cases first with
  | true => exact ⟨p, rfl⟩
  | false =>
    obtain ⟨p', skipped⟩ := skipSpaces_newline level tail (c := '\x7d') (by decide) p
    refine ⟨p', ?_⟩
    show nextName false ⟨(newline level).toList ++ '\x7d' :: tail, p⟩ = _
    unfold nextName
    rw [skipped]
    rfl

/-- The next name of an object is found where it starts. -/
theorem nextName_cons (first : Bool) (level : Nat) (name : String) (value : Json)
    (more : List (String × Json)) (tail : List Char) (p : Position) :
    ∃ p', nextName first ⟨membersFrom first level ((name, value) :: more) tail, p⟩ =
      .ok (true, ⟨'"' :: memberChars (level + 1) name value (membersFrom false level more tail),
        p'⟩) := by
  have found (p : Position) := skipSpaces_newline (level + 1)
    (memberChars (level + 1) name value (membersFrom false level more tail)) (c := '"')
    (by decide) p
  rw [membersFrom]
  cases first with
  | true =>
    obtain ⟨p', skipped⟩ := found p
    refine ⟨p', ?_⟩
    rw [if_pos rfl]
    unfold nextName
    rw [skipped]
    rfl
  | false =>
    obtain ⟨p', skipped⟩ := found (p.after ',')
    refine ⟨p', ?_⟩
    rw [if_neg Bool.false_ne_true]
    unfold nextName
    rw [skipSpaces_cons (by decide)]
    dsimp only [Cursor.next]
    rw [skipped]
    rfl

/-- The name of a member is read up to its colon. -/
theorem readString_memberChars (level : Nat) (name : String) (value : Json) (behind : List Char)
    (p : Position) : ∃ p', readString ⟨memberChars level name value behind, p⟩ =
      .ok (name, ⟨':' :: ' ' :: ((indented level value).toList ++ behind), p'⟩) :=
  readString_quoted name _ p

/-- A colon is passed. -/
theorem readColon_colon (cs : List Char) (p : Position) :
    readColon ⟨':' :: cs, p⟩ = .ok ⟨cs, p.after ':'⟩ :=
  rfl

/-! ## Documents -/

/-- A document gives what its value gives. -/
theorem readAll_pretty (gives : Gives reader json found) :
    (readAll reader (json.pretty ++ "\n")).toOption = found := by
  have ends : EndsValue "\n".toList := by
    rintro c cs ⟨⟩
    exact .inr rfl
  have given := gives.unblanked 0 ends ⟨1, 0⟩
  unfold readAll Cursor.start pretty
  rw [String.toList_append]
  cases found with
  | some value =>
    obtain ⟨p, taken⟩ := given
    rw [taken]
    rfl
  | none =>
    obtain ⟨e, refused⟩ := given
    rw [refused]
    rfl

end QualityGates.Json
