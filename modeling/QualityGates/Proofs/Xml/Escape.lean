import QualityGates.Xml.Entity

/-!
# Escaped text

Escaping writes the characters with a meaning in markup as named entities. An escaped text holds
no bracket and no quotation mark, and resolving its entities gives the text back.
-/

namespace QualityGates.Xml

/-- A character as it is written in escaped text. -/
def escapeChar (c : Char) : List Char :=
  match c with
  | '&' => ['&', 'a', 'm', 'p', ';']
  | '<' => ['&', 'l', 't', ';']
  | '>' => ['&', 'g', 't', ';']
  | '"' => ['&', 'q', 'u', 'o', 't', ';']
  | '\'' => ['&', 'a', 'p', 'o', 's', ';']
  | c => [c]

/-- A text with the characters escaped that have a meaning in markup. -/
def escape (cs : List Char) : List Char :=
  cs.flatMap escapeChar

/-- A character that is no bracket and no quotation mark. -/
def isHarmless (c : Char) : Bool :=
  c != '<' && c != '>' && c != '"' && c != '\''

/-- The characters that escaping leaves in a text are no brackets and no quotation marks. -/
theorem escapeChar_harmless (c : Char) : (escapeChar c).all isHarmless = true := by
  unfold escapeChar
  split
  case h_6 other amp lt gt quot apos =>
    rw [List.all_cons, List.all_nil, Bool.and_true, isHarmless, bne_iff_ne.mpr lt,
      bne_iff_ne.mpr gt, bne_iff_ne.mpr quot, bne_iff_ne.mpr apos]
    rfl
  all_goals decide

/-- An escaped text holds no bracket and no quotation mark. -/
theorem ne_of_mem_escape {cs : List Char} {d : Char} (member : d ∈ escape cs) :
    d ≠ '<' ∧ d ≠ '>' ∧ d ≠ '"' ∧ d ≠ '\'' := by
  obtain ⟨c, _, written⟩ := List.mem_flatMap.mp member
  have harmless := List.all_eq_true.mp (escapeChar_harmless c) d written
  unfold isHarmless at harmless
  simp only [Bool.and_eq_true, bne_iff_ne] at harmless
  obtain ⟨⟨⟨lt, gt⟩, quot⟩, apos⟩ := harmless
  exact ⟨lt, gt, quot, apos⟩

/-- The bytes of a text are those of its parts. -/
theorem byteCount_append (first second : List Char) :
    byteCount (first ++ second) = byteCount first + byteCount second := by
  induction first with
  | nil => rw [List.nil_append, byteCount, Nat.zero_add]
  | cons c first ih =>
    rw [List.cons_append, byteCount, byteCount, ih]
    omega

/-- The name of an entity is read up to its semicolon. -/
theorem resolveFrom_pending {finish place start : Nat} {name entity rest : List Char}
    (noAmp : '&' ∉ entity) (noEnd : ';' ∉ entity) :
    resolveFrom finish place (some (start, name)) (entity ++ ';' :: rest) =
      match entityChar (start + 1) (place + byteCount entity) (name ++ entity) with
      | .error fault => .error fault
      | .ok d => (resolveFrom finish (place + byteCount entity + 1) none rest).map (d :: ·) := by
  induction entity generalizing place name with
  | nil =>
    rw [List.nil_append, List.append_nil, resolveFrom, if_neg (by decide), if_pos rfl]
    rfl
  | cons c entity ih =>
    rw [List.mem_cons, not_or] at noAmp noEnd
    rw [List.cons_append, resolveFrom, if_neg (Ne.symm noAmp.1), if_neg (Ne.symm noEnd.1),
      ih noAmp.2 noEnd.2, List.append_assoc, List.singleton_append]
    have places : place + c.utf8Size + byteCount entity = place + byteCount (c :: entity) := by
      rw [byteCount]
      omega
    rw [places]

/-- A named entity is read as its character. -/
theorem resolveFrom_entity (entity : List Char) {finish place : Nat} {rest : List Char} {c : Char}
    (noAmp : '&' ∉ entity) (noEnd : ';' ∉ entity)
    (means : ∀ first last, entityChar first last entity = .ok c) :
    resolveFrom finish place none (('&' :: entity ++ [';']) ++ rest) =
      (resolveFrom finish (place + byteCount ('&' :: entity ++ [';'])) none rest).map (c :: ·) := by
  have places : place + '&'.utf8Size + byteCount entity + 1 =
      place + byteCount ('&' :: entity ++ [';']) := by
    have amp : '&'.utf8Size = 1 := rfl
    have semicolon : byteCount [';'] = 1 := rfl
    rw [List.cons_append, byteCount, byteCount_append]
    omega
  rw [List.cons_append, List.cons_append, List.append_assoc, List.singleton_append, resolveFrom,
    if_pos rfl, resolveFrom_pending noAmp noEnd, List.nil_append, means, places]
  rfl

/-- Resolving an escaped character gives the character and goes on behind it. -/
theorem resolveFrom_escapeChar (finish place : Nat) (c : Char) (rest : List Char) :
    resolveFrom finish place none (escapeChar c ++ rest) =
      (resolveFrom finish (place + byteCount (escapeChar c)) none rest).map (c :: ·) := by
  unfold escapeChar
  split
  case h_1 => exact resolveFrom_entity ['a', 'm', 'p'] (by decide) (by decide) fun _ _ => rfl
  case h_2 => exact resolveFrom_entity ['l', 't'] (by decide) (by decide) fun _ _ => rfl
  case h_3 => exact resolveFrom_entity ['g', 't'] (by decide) (by decide) fun _ _ => rfl
  case h_4 =>
    exact resolveFrom_entity ['q', 'u', 'o', 't'] (by decide) (by decide) fun _ _ => rfl
  case h_5 =>
    exact resolveFrom_entity ['a', 'p', 'o', 's'] (by decide) (by decide) fun _ _ => rfl
  case h_6 other amp lt gt quot apos =>
    rw [List.singleton_append, resolveFrom, if_neg amp]
    rfl

/-- Resolving an escaped text gives the text back, wherever it stands. -/
theorem resolveFrom_escape (finish place : Nat) (cs : List Char) :
    resolveFrom finish place none (escape cs) = .ok cs := by
  induction cs generalizing place with
  | nil => rfl
  | cons c cs ih =>
    rw [escape, List.flatMap_cons, resolveFrom_escapeChar]
    have rest := ih (place + byteCount (escapeChar c))
    rw [escape] at rest
    rw [rest]
    rfl

/-- Resolving an escaped text gives the text back. -/
theorem resolve_escape (cs : List Char) : resolve (escape cs) = .ok cs :=
  resolveFrom_escape _ _ cs

end QualityGates.Xml
