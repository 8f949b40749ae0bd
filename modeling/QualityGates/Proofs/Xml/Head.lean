import Mathlib.Data.List.TakeWhile
import QualityGates.Proofs.Result
import QualityGates.Proofs.Table
import QualityGates.Proofs.Xml.Escape
import QualityGates.Xml.Attribute
import QualityGates.Xml.Reader

/-!
# Tags as they are written

An element is written with its name and its attributes, whose values are escaped and quoted. A tag
written like this ends where it was ended, has the name that it was given, and each of its
attributes is found with its value.
-/

namespace QualityGates.Xml

/-- A character that can stand in a name: no blank, no colon, and none with a meaning in markup. -/
def isNameChar (c : Char) : Bool :=
  !isSpace c && !(['<', '>', '/', '=', '"', '\'', '&', '!', '?', ':'].contains c)

/-- A name without a colon. -/
structure IsPlainName (name : String) : Prop where
  /-- A name has a first character. -/
  present : name.toList ≠ []
  /-- A name consists of characters for names. -/
  chars : ∀ c ∈ name.toList, isNameChar c = true

instance (name : String) : Decidable (IsPlainName name) :=
  decidable_of_iff (name.toList ≠ [] ∧ name.toList.all isNameChar = true)
    ⟨fun ⟨present, chars⟩ => ⟨present, List.all_eq_true.mp chars⟩,
      fun ⟨present, chars⟩ => ⟨present, List.all_eq_true.mpr chars⟩⟩

/-- The name and the attributes of an element. -/
structure Head where
  name : String
  attributes : List (String × String)
  deriving DecidableEq, Repr, Inhabited

namespace Head

/-- An attribute as it is written. -/
def attributeText (item : String × String) : List Char :=
  ' ' :: (item.1.toList ++ '=' :: '"' :: (escape item.2.toList ++ ['"']))

/-- What is written between the brackets of a tag. -/
def content (head : Head) : List Char :=
  head.name.toList ++ head.attributes.flatMap attributeText

/-- The tag of an element. -/
def tag (head : Head) : Tag :=
  ⟨head.content⟩

/-- The value of an attribute. -/
def attribute? (head : Head) (key : String) : Option String :=
  head.attributes.lookup key

/-- Names are proper ones, and no attribute is repeated. -/
structure WellFormed (head : Head) : Prop where
  /-- The name is one without a colon. -/
  name : IsPlainName head.name
  /-- So are the keys of the attributes. -/
  keys : ∀ item ∈ head.attributes, IsPlainName item.1
  /-- No key is repeated. -/
  nodup : (head.attributes.map Prod.fst).Nodup

instance (head : Head) : Decidable head.WellFormed :=
  decidable_of_iff (IsPlainName head.name ∧ (∀ item ∈ head.attributes, IsPlainName item.1) ∧
      (head.attributes.map Prod.fst).Nodup)
    ⟨fun ⟨name, keys, nodup⟩ => ⟨name, keys, nodup⟩, fun ⟨name, keys, nodup⟩ => ⟨name, keys, nodup⟩⟩

end Head

variable {head : Head} {cs more value : List Char} {name : String}

/-! ## Where a tag ends -/

/-- Puts a text in front of the first of two parts. -/
def putFirst (cs : List Char) (parts : List Char × List Char) : List Char × List Char :=
  (cs ++ parts.1, parts.2)

/-- A character for names is no blank and has no meaning in markup. -/
theorem ne_of_isNameChar {c : Char} (isName : isNameChar c = true) :
    isSpace c = false ∧ c ≠ '>' ∧ c ≠ '/' ∧ c ≠ '=' ∧ c ≠ '"' ∧ c ≠ '\'' ∧ c ≠ '!' ∧ c ≠ '?' ∧
      c ≠ ':' := by
  unfold isNameChar at isName
  rw [Bool.and_eq_true, Bool.not_eq_true', Bool.not_eq_true', List.contains_eq_mem,
    decide_eq_false_iff_not] at isName
  simp only [List.mem_cons, List.not_mem_nil, or_false, not_or] at isName
  obtain ⟨space, _, gt, slash, equals, quot, apos, _, bang, mark, colon⟩ := isName
  exact ⟨space, gt, slash, equals, quot, apos, bang, mark, colon⟩

/-- A character that neither ends a tag nor opens a quotation is part of the tag. -/
theorem splitTag?_cons {c : Char} (gt : c ≠ '>') (quot : c ≠ '"') (apos : c ≠ '\'') :
    splitTag? none (c :: more) = (splitTag? none more).map (putFirst [c]) := by
  rw [splitTag?, if_neg gt, if_neg (not_or.mpr ⟨quot, apos⟩)]
  rfl

/-- Putting two texts in front one after the other is putting them in front together. -/
theorem putFirst_comp (first second : List Char) :
    putFirst first ∘ putFirst second = putFirst (first ++ second) := by
  funext parts
  exact congrArg (·, parts.2) (List.append_assoc first second parts.1).symm

/-- Characters that neither end a tag nor open a quotation are part of the tag. -/
theorem splitTag?_append
    (plain : ∀ c ∈ cs, c ≠ '>' ∧ c ≠ '"' ∧ c ≠ '\'') :
    splitTag? none (cs ++ more) = (splitTag? none more).map (putFirst cs) := by
  induction cs with
  | nil => exact Option.map_id'.symm
  | cons c cs ih =>
    rw [List.forall_mem_cons] at plain
    obtain ⟨⟨gt, quot, apos⟩, rest⟩ := plain
    rw [List.cons_append, splitTag?_cons gt quot apos, ih rest, Option.map_map, putFirst_comp]
    rfl

/-- A quotation ends at the next quotation mark. -/
theorem splitTag?_quotation (noQuote : '"' ∉ value) :
    splitTag? (some '"') (value ++ '"' :: more) =
      (splitTag? none more).map (putFirst (value ++ ['"'])) := by
  induction value with
  | nil =>
    rw [List.nil_append, splitTag?]
    rfl
  | cons c value ih =>
    rw [List.mem_cons, not_or] at noQuote
    rw [List.cons_append, splitTag?, if_neg (Ne.symm noQuote.1), ih noQuote.2, Option.map_map]
    rfl

/-- A quoted value is part of the tag, whatever is quoted. -/
theorem splitTag?_quoted (noQuote : '"' ∉ value) :
    splitTag? none ('"' :: (value ++ '"' :: more)) =
      (splitTag? none more).map (putFirst ('"' :: (value ++ ['"']))) := by
  rw [splitTag?, if_neg (by decide), if_pos (.inl rfl), splitTag?_quotation noQuote, Option.map_map]
  rfl

/-- An escaped value holds no quotation mark. -/
theorem quote_not_mem_escape (cs : List Char) : '"' ∉ escape cs :=
  fun member => (ne_of_mem_escape member).2.2.1 rfl

/-- A name is part of a tag. -/
theorem IsPlainName.plain (proper : IsPlainName name) :
    ∀ c ∈ name.toList, c ≠ '>' ∧ c ≠ '"' ∧ c ≠ '\'' := by
  intro c member
  obtain ⟨_, gt, _, _, quot, apos, _⟩ := ne_of_isNameChar (proper.chars c member)
  exact ⟨gt, quot, apos⟩

/-- Written attributes are part of a tag. -/
theorem splitTag?_attributes {attributes : List (String × String)}
    (keys : ∀ item ∈ attributes, IsPlainName item.1) :
    splitTag? none (attributes.flatMap Head.attributeText ++ more) =
      (splitTag? none more).map (putFirst (attributes.flatMap Head.attributeText)) := by
  induction attributes with
  | nil => exact Option.map_id'.symm
  | cons item attributes ih =>
    obtain ⟨key, value⟩ := item
    rw [List.forall_mem_cons] at keys
    have quoted := quote_not_mem_escape value.toList
    rw [List.flatMap_cons, List.append_assoc, Head.attributeText, List.cons_append,
      List.append_assoc, List.cons_append, List.cons_append, List.append_assoc,
      List.singleton_append,
      splitTag?_cons (by decide) (by decide) (by decide), splitTag?_append keys.1.plain,
      splitTag?_cons (by decide) (by decide) (by decide), splitTag?_quoted quoted, ih keys.2]
    simp only [Option.map_map, putFirst_comp]
    congr 2
    simp only [List.append_assoc, List.cons_append, List.nil_append]

/-- What is written between the brackets of a tag is part of the tag. -/
theorem Head.WellFormed.splitTag?_content (sound : head.WellFormed) :
    splitTag? none (head.content ++ more) =
      (splitTag? none more).map (putFirst head.content) := by
  rw [Head.content, List.append_assoc, splitTag?_append sound.name.plain,
    splitTag?_attributes sound.keys, Option.map_map, putFirst_comp]

/-! ## What a tag says -/

/-- Characters for names are taken up to the first other character. -/
theorem takeWhile_chars {p : Char → Bool} (chars : ∀ c ∈ cs, isNameChar c = true)
    (inside : ∀ c, isNameChar c = true → p c = true) (ends : ∀ c ∈ more.head?, p c = false) :
    (cs ++ more).takeWhile p = cs ∧ (cs ++ more).dropWhile p = more := by
  have all : ∀ c ∈ cs, p c = true := fun c member => inside c (chars c member)
  rw [List.takeWhile_append_of_pos all, List.dropWhile_append_of_pos all]
  cases more with
  | nil => exact ⟨List.append_nil cs, rfl⟩
  | cons c more =>
    have stops : ¬ p c = true := by
      rw [ends c rfl]
      exact Bool.false_ne_true
    rw [List.takeWhile_cons_of_neg stops, List.dropWhile_cons_of_neg stops, List.append_nil]
    exact ⟨rfl, rfl⟩

/-- Attributes start with a blank. -/
theorem head?_attributes {attributes : List (String × String)} :
    ∀ c ∈ (attributes.flatMap Head.attributeText).head?, c = ' ' := by
  intro c first
  cases attributes with
  | nil => cases first
  | cons item attributes =>
    rw [List.flatMap_cons, Head.attributeText, List.cons_append, List.head?_cons] at first
    cases first
    rfl

/-- A written tag has the name of its element. -/
theorem Head.WellFormed.tag_name (sound : head.WellFormed) : head.tag.name = head.name.toList := by
  unfold Tag.name Head.tag Head.content
  refine (takeWhile_chars sound.name.chars (fun c isName => ?_) (fun c first => ?_)).1
  · rw [(ne_of_isNameChar isName).1]
    rfl
  · rw [head?_attributes c first]
    rfl

/-- A written tag has the name of its element also without what stands before a colon. -/
theorem Head.WellFormed.tag_localName (sound : head.WellFormed) :
    head.tag.localName = head.name := by
  have noColon : head.name.toList.dropWhile (fun c => c != ':') = [] := by
    rw [List.dropWhile_eq_nil_iff]
    intro c member
    obtain ⟨_, _, _, _, _, _, _, _, colon⟩ := ne_of_isNameChar (sound.name.chars c member)
    exact bne_iff_ne.mpr colon
  unfold Tag.localName
  rw [sound.tag_name, noColon]
  exact String.ofList_toList

/-- A written value is read up to its quotation mark. -/
theorem readValue_written (place : Nat) (noQuote : '"' ∉ value) (more : List Char) :
    ∃ after, Remainder.readValue ⟨place, '"' :: (value ++ '"' :: more)⟩ =
      .ok (value, ⟨after, more⟩) := by
  have all : ∀ c ∈ value, (c != '"') = true := fun c member =>
    bne_iff_ne.mpr fun same => noQuote (same ▸ member)
  have taken : (value ++ '"' :: more).takeWhile (fun c => c != '"') = value := by
    rw [List.takeWhile_append_of_pos all]
    exact List.append_nil value
  have left : (value ++ '"' :: more).dropWhile (fun c => c != '"') = '"' :: more := by
    rw [List.dropWhile_append_of_pos all]
    rfl
  unfold Remainder.readValue
  dsimp only
  rw [if_pos (.inl rfl), taken, left]
  exact ⟨_, rfl⟩

/-- The sign between a key and its value is passed. -/
theorem passEquals_written (place : Nat) (more : List Char) :
    (Remainder.skip ⟨place, '=' :: more⟩).passEquals = .ok ⟨place + 1, more⟩ := rfl

/-- A quotation mark is no blank. -/
theorem skip_quote (place : Nat) (more : List Char) :
    Remainder.skip ⟨place, '"' :: more⟩ = ⟨place, '"' :: more⟩ := rfl

/-- The next attribute that is written is read, unless its key was read before. -/
theorem nextAttribute_written {key : String} {seen : List (List Char × Nat)} (place : Nat)
    (text : String) (proper : IsPlainName key) (unseen : seen.lookup key.toList = none)
    (more : List Char) :
    ∃ here after, nextAttribute seen ⟨place, Head.attributeText (key, text) ++ more⟩ =
      .ok (some (⟨key.toList, escape text.toList⟩, here, ⟨after, more⟩)) := by
  obtain ⟨first, tail, written⟩ := List.exists_cons_of_ne_nil proper.present
  have chars := proper.chars
  rw [written, List.forall_mem_cons] at chars
  obtain ⟨notSpace, _⟩ := ne_of_isNameChar chars.1
  have start : Remainder.skip ⟨place, Head.attributeText (key, text) ++ more⟩ =
      ⟨place + byteCount [' '],
        first :: (tail ++ '=' :: '"' :: (escape text.toList ++ '"' :: more))⟩ := by
    have shape : Head.attributeText (key, text) ++ more =
        ' ' :: first :: (tail ++ '=' :: '"' :: (escape text.toList ++ '"' :: more)) := by
      rw [Head.attributeText, written]
      simp only [List.cons_append, List.append_assoc, List.nil_append]
    have stops : ¬ isSpace first = true := by
      rw [notSpace]
      exact Bool.false_ne_true
    unfold Remainder.skip
    rw [shape, List.takeWhile_cons_of_pos rfl, List.dropWhile_cons_of_pos rfl,
      List.takeWhile_cons_of_neg stops, List.dropWhile_cons_of_neg stops]
  have ends : (tail ++ '=' :: '"' :: (escape text.toList ++ '"' :: more)).takeWhile
        (fun c => c != '=' && !isSpace c) = tail ∧
      (tail ++ '=' :: '"' :: (escape text.toList ++ '"' :: more)).dropWhile
        (fun c => c != '=' && !isSpace c) = '=' :: '"' :: (escape text.toList ++ '"' :: more) := by
    refine takeWhile_chars chars.2 (fun c isName => ?_) (fun c first => ?_)
    · obtain ⟨space, _, _, equals, _⟩ := ne_of_isNameChar isName
      rw [space, bne_iff_ne.mpr equals]
      rfl
    · cases first
      rfl
  obtain ⟨after, read⟩ := readValue_written
    (place + byteCount [' '] + byteCount (first :: tail) + 1) (quote_not_mem_escape text.toList)
    more
  unfold nextAttribute
  rw [start]
  dsimp only
  rw [ends.1, ends.2, passEquals_written]
  dsimp only
  rw [← written, unseen]
  dsimp only
  rw [skip_quote, written, read]
  exact ⟨_, after, rfl⟩

/-- An attribute of a written tag is found with its value. -/
theorem findAttribute_written {attributes : List (String × String)} {fuel : Nat}
    (seen : List (List Char × Nat)) (place : Nat) (keys : ∀ item ∈ attributes, IsPlainName item.1)
    (nodup : (attributes.map Prod.fst).Nodup)
    (unseen : ∀ item ∈ attributes, seen.lookup item.1.toList = none)
    (enough : attributes.length < fuel) (key : String) :
    findAttribute key.toList fuel seen ⟨place, attributes.flatMap Head.attributeText⟩ =
      .ok ((attributes.lookup key).map fun value => escape value.toList) := by
  induction attributes generalizing seen fuel place with
  | nil =>
    obtain ⟨fuel, rfl⟩ := Nat.exists_eq_succ_of_ne_zero (Nat.ne_of_gt enough)
    rfl
  | cons item attributes ih =>
    obtain ⟨found, text⟩ := item
    obtain ⟨fuel, rfl⟩ := Nat.exists_eq_succ_of_ne_zero (Nat.ne_of_gt (Nat.zero_lt_of_lt enough))
    rw [List.forall_mem_cons] at keys unseen
    rw [List.map_cons, List.nodup_cons] at nodup
    obtain ⟨here, after, next⟩ := nextAttribute_written place text keys.1 unseen.1
      (attributes.flatMap Head.attributeText)
    rw [List.flatMap_cons, findAttribute, next]
    dsimp only
    rw [lookup_cons_ite]
    by_cases same : key = found
    · rw [if_pos same, if_pos (congrArg String.toList same.symm)]
      rfl
    · rw [if_neg same, if_neg fun equal => same (String.toList_inj.mp equal).symm]
      have stillUnseen : ∀ item ∈ attributes,
          ((found.toList, here) :: seen).lookup item.1.toList = none := by
        intro item member
        rw [lookup_cons_ite, if_neg]
        · exact unseen.2 item member
        · intro equal
          exact nodup.1 (List.mem_map.mpr ⟨item, member, String.toList_inj.mp equal⟩)
      exact ih _ after keys.2 nodup.2 stillUnseen (Nat.lt_of_succ_lt_succ enough)

/-- Written attributes are no fewer than their characters. -/
theorem length_le_attributes (attributes : List (String × String)) :
    attributes.length ≤ (attributes.flatMap Head.attributeText).length := by
  induction attributes with
  | nil => exact Nat.le_refl 0
  | cons item attributes ih =>
    rw [List.flatMap_cons, List.length_append, Head.attributeText, List.length_cons,
      List.length_cons]
    omega

/-- An attribute of a written tag has the value that it was given. -/
theorem Head.WellFormed.tag_attribute? (sound : head.WellFormed) (key : String) :
    head.tag.attribute? key = .ok (head.attribute? key) := by
  have rest : head.tag.content.drop head.name.toList.length =
      head.attributes.flatMap Head.attributeText :=
    List.drop_left
  have found := findAttribute_written []
    (byteCount head.name.toList) sound.keys sound.nodup (fun _ _ => rfl)
    (Nat.lt_succ_of_le (length_le_attributes head.attributes)) key
  unfold Tag.attribute?
  rw [sound.tag_name]
  dsimp only
  rw [rest, found]
  unfold Head.attribute?
  cases head.attributes.lookup key with
  | none => rfl
  | some value =>
    show (resolve (escape value.toList)).map _ = _
    rw [resolve_escape]
    show Except.ok (some (String.ofList value.toList)) = _
    rw [String.ofList_toList]

end QualityGates.Xml
