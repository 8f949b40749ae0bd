import QualityGates.Xml.Basic

/-!
# Reading a document into events

Outside of markup a document is text, which loses the blanks at its ends and is passed over when it
is blank. A tag ends at the first `>` that is not quoted. Reading stops at the first fault, which is
the last item of the list of events.
-/

namespace QualityGates.Xml

/-- Puts a character in front of the first of two parts. -/
def consFirst (c : Char) : List Char × List Char → List Char × List Char
  | (first, second) => (c :: first, second)

/-- The parts of a text before and after the first `closing`. -/
def splitAt? (closing : List Char) : List Char → Option (List Char × List Char)
  | [] => none
  | c :: rest =>
    if closing.isPrefixOf (c :: rest) then some ([], (c :: rest).drop closing.length)
    else (splitAt? closing rest).map (consFirst c)

/-- The parts before and after the `>` that ends a tag; `quote` is the quotation mark that is
open. -/
def splitTag? (quote : Option Char) : List Char → Option (List Char × List Char)
  | [] => none
  | c :: rest =>
    match quote with
    | some q => (splitTag? (if c = q then none else some q) rest).map (consFirst c)
    | none =>
      if c = '>' then some ([], rest)
      else (splitTag? (if c = '"' ∨ c = '\'' then some c else none) rest).map (consFirst c)

/-- The parts before and after the `>` that ends a declaration with `depth` open brackets. -/
def splitDeclaration? (depth : Nat) : List Char → Option (List Char × List Char)
  | [] => none
  | c :: rest =>
    if c = '>' then
      match depth with
      | 0 => some ([], rest)
      | depth + 1 => (splitDeclaration? depth rest).map (consFirst c)
    else (splitDeclaration? (if c = '<' then depth + 1 else depth) rest).map (consFirst c)

/-- The text after markup that starts with `<!`. -/
def passDeclaration (cs : List Char) : Except Fault (List Char) :=
  match cs with
  | '-' :: more =>
    match more with
    | '-' :: body =>
      match splitAt? ['-', '-', '>'] body with
      | some (_, rest) => .ok rest
      | none => .error .openComment
    | _ => .error .openComment
  | '[' :: more =>
    if "CDATA[".toList.isPrefixOf more then
      match splitAt? [']', ']', '>'] more with
      | some (_, rest) => .ok rest
      | none => .error .openCData
    else .error .openCData
  | c :: _ =>
    if c = 'D' ∨ c = 'd' then
      if (cs.take 7).map Char.toUpper == "DOCTYPE".toList then
        match splitDeclaration? 0 (cs.drop 7) with
        | some (content, rest) => if content.all isSpace then .error .unnamedDoctype else .ok rest
        | none => .error .openDoctype
      else .error .openDoctype
    else .error .openMarkup
  | [] => .error .openMarkup

/-- The text after markup that starts with `<?`; `<?>` does not end it. -/
def passInstruction (cs : List Char) : Except Fault (List Char) :=
  if cs.head? == some '>' then .error .openInstruction
  else
    match splitAt? ['?', '>'] cs with
    | some (_, rest) => .ok rest
    | none => .error .openInstruction

/-- A text without the blanks at its end. -/
def trimBack (cs : List Char) : List Char :=
  (cs.reverse.dropWhile isSpace).reverse

/-- The name that a closing tag gives. -/
def closingName (content : List Char) : List Char :=
  if content.all isSpace then content else trimBack content

/-- Takes the names of the open elements through a closing tag. -/
def closeElement (opened : List (List Char)) (name : List Char) :
    Except Fault (List (List Char)) :=
  match opened with
  | [] => .error (.strayEnd (String.ofList name))
  | expected :: outer =>
    if name = expected then .ok outer
    else .error (.wrongEnd (String.ofList expected) (String.ofList name))

/-- The event of a tag that opens an element, and the open elements after it. -/
def openElement (opened : List (List Char)) (content : List Char) : Event × List (List Char) :=
  match content.getLast? with
  | some '/' => (.single ⟨content.dropLast⟩, opened)
  | _ => (.opening ⟨content⟩, (Tag.name ⟨content⟩) :: opened)

/-- The event of the markup after a `<`, the open elements after it, and the text after it. -/
def readMarkup (opened : List (List Char)) (cs : List Char) :
    Except Fault (Event × List (List Char) × List Char) :=
  match cs with
  | [] => .error .openTag
  | '!' :: more => (passDeclaration more).map (fun rest => (.aside, opened, rest))
  | '?' :: more => (passInstruction more).map (fun rest => (.aside, opened, rest))
  | '/' :: more =>
    match splitTag? none more with
    | some (content, rest) =>
      (closeElement opened (closingName content)).map (fun outer => (.closing, outer, rest))
    | none => .error .openTag
  | _ =>
    match splitTag? none cs with
    | some (content, rest) =>
      let (event, inner) := openElement opened content
      .ok (event, inner, rest)
    | none => .error .openTag

/-! ## What reading leaves

Each splitter returns a part of what it was given, so reading event by event comes to an end. -/

/-- What stands behind a mark is no longer than the text. -/
theorem splitAt?_length {closing cs first second : List Char}
    (h : splitAt? closing cs = some (first, second)) : second.length ≤ cs.length := by
  induction cs generalizing first with
  | nil => simp [splitAt?] at h
  | cons c rest ih =>
    unfold splitAt? at h
    split at h
    · obtain ⟨-, rfl⟩ := Prod.mk.inj (Option.some.inj h)
      simp only [List.length_drop, List.length_cons]; omega
    · obtain ⟨⟨a, b⟩, found, rebuilt⟩ := Option.map_eq_some_iff.1 h
      obtain ⟨-, rfl⟩ := Prod.mk.inj rebuilt
      exact Nat.le_succ_of_le (ih found)

/-- What stands behind a tag is shorter than the text. -/
theorem splitTag?_length {quote : Option Char} {cs first second : List Char}
    (h : splitTag? quote cs = some (first, second)) : second.length < cs.length := by
  induction cs generalizing quote first with
  | nil => simp [splitTag?] at h
  | cons c rest ih =>
    unfold splitTag? at h
    split at h
    · obtain ⟨⟨a, b⟩, found, rebuilt⟩ := Option.map_eq_some_iff.1 h
      obtain ⟨-, rfl⟩ := Prod.mk.inj rebuilt
      exact Nat.lt_succ_of_lt (ih found)
    · split at h
      · obtain ⟨-, rfl⟩ := Prod.mk.inj (Option.some.inj h)
        exact Nat.lt_succ_self _
      · obtain ⟨⟨a, b⟩, found, rebuilt⟩ := Option.map_eq_some_iff.1 h
        obtain ⟨-, rfl⟩ := Prod.mk.inj rebuilt
        exact Nat.lt_succ_of_lt (ih found)

/-- What stands behind a declaration is shorter than the text. -/
theorem splitDeclaration?_length {depth : Nat} {cs first second : List Char}
    (h : splitDeclaration? depth cs = some (first, second)) : second.length < cs.length := by
  induction cs generalizing depth first with
  | nil => simp [splitDeclaration?] at h
  | cons c rest ih =>
    unfold splitDeclaration? at h
    split at h
    · split at h
      · obtain ⟨-, rfl⟩ := Prod.mk.inj (Option.some.inj h)
        exact Nat.lt_succ_self _
      · obtain ⟨⟨a, b⟩, found, rebuilt⟩ := Option.map_eq_some_iff.1 h
        obtain ⟨-, rfl⟩ := Prod.mk.inj rebuilt
        exact Nat.lt_succ_of_lt (ih found)
    · obtain ⟨⟨a, b⟩, found, rebuilt⟩ := Option.map_eq_some_iff.1 h
      obtain ⟨-, rfl⟩ := Prod.mk.inj rebuilt
      exact Nat.lt_succ_of_lt (ih found)

/-- What is left behind an instruction is no longer than the text. -/
theorem passInstruction_length {cs rest : List Char} (h : passInstruction cs = .ok rest) :
    rest.length ≤ cs.length := by
  unfold passInstruction at h
  split at h
  · cases h
  · split at h
    · rename_i found
      cases h
      exact splitAt?_length found
    · cases h

/-- What is left behind a declaration is no longer than the text. -/
theorem passDeclaration_length {cs rest : List Char} (h : passDeclaration cs = .ok rest) :
    rest.length ≤ cs.length := by
  unfold passDeclaration at h
  split at h
  · split at h
    · split at h
      · rename_i found
        cases h
        have := splitAt?_length found
        simp only [List.length_cons]; omega
      · cases h
    · cases h
  · split at h
    · split at h
      · rename_i found
        cases h
        have := splitAt?_length found
        simp only [List.length_cons]; omega
      · cases h
    · cases h
  · split at h
    · split at h
      · split at h
        · rename_i found
          split at h
          · cases h
          · cases h
            have := splitDeclaration?_length found
            simp only [List.length_drop, List.length_cons] at this ⊢; omega
        · cases h
      · cases h
    · cases h
  · cases h

/-- Markup leaves no more than the text that it was read from. -/
theorem readMarkup_length {opened inner : List (List Char)} {cs rest : List Char} {event : Event}
    (h : readMarkup opened cs = .ok (event, inner, rest)) : rest.length ≤ cs.length := by
  have mapped : ∀ {α β : Type} {x : Except Fault α} {f : α → β} {y : β},
      x.map f = .ok y → ∃ a, x = .ok a ∧ f a = y := by
    intro α β x f y hx
    cases x with
    | error e => simp [Except.map] at hx
    | ok a => exact ⟨a, rfl, Except.ok.inj hx⟩
  unfold readMarkup at h
  split at h
  · cases h
  · obtain ⟨a, found, same⟩ := mapped h
    have := passDeclaration_length found
    cases same
    simp only [List.length_cons]; omega
  · obtain ⟨a, found, same⟩ := mapped h
    have := passInstruction_length found
    cases same
    simp only [List.length_cons]; omega
  · split at h
    · rename_i found
      obtain ⟨a, -, same⟩ := mapped h
      have := splitTag?_length found
      cases same
      simp only [List.length_cons]; omega
    · cases h
  · split at h
    · rename_i found
      have := splitTag?_length found
      cases h
      omega
    · cases h

/-! ## Events -/

/-- The text in front of the next `<`. -/
def leadingText (cs : List Char) : List Char :=
  cs.takeWhile (fun c => c != '<')

/-- The event of a text, unless it is blank. -/
def textEvents (cs : List Char) : List (Except Fault Event) :=
  let text := trimBack (cs.dropWhile isSpace)
  if text.isEmpty then [] else [.ok (.text text)]

/-- The events of a text in which elements are open, innermost first. -/
def eventsFrom (opened : List (List Char)) (cs : List Char) : List (Except Fault Event) :=
  textEvents (leadingText cs) ++
    match _ : cs.dropWhile (fun c => c != '<') with
    | [] => []
    | _ :: markup =>
      match _ : readMarkup opened markup with
      | .error fault => [.error fault]
      | .ok (event, inner, rest) => .ok event :: eventsFrom inner rest
termination_by cs.length
decreasing_by
  rename_i _ h read
  have left := readMarkup_length read
  have whole := (List.dropWhile_sublist (l := cs) (fun c => c != '<')).length_le
  rw [h, List.length_cons] at whole
  omega

/-- The mark that may stand in front of a document. -/
def byteOrderMark : Char := '\uFEFF'

/-- The events of a document, with the first fault at the end. -/
def events (document : String) : List (Except Fault Event) :=
  match document.toList with
  | [] => []
  | c :: rest => eventsFrom [] (if c = byteOrderMark then rest else c :: rest)

end QualityGates.Xml
