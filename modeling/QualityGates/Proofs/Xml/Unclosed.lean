import QualityGates.Proofs.Result
import QualityGates.Proofs.Xml.Forest

/-!
# Elements that are left open

Reading comes to the end of a text when all of its markup is whole and every closing tag names the
element that was opened last. Elements may then still be open. What stands behind a whole piece of
markup does not change how it is read, so a text can be read in two parts.
-/

namespace QualityGates.Xml

variable {opened inner : List (List Char)} {closing cs rest more first : List Char} {event : Event}
  {quote : Option Char} {depth : Nat}

/-- Reading a text in which elements are open comes to its end, and leaves elements open. -/
inductive Leaves : List (List Char) → List Char → List (List Char) → Prop where
  | done {opened : List (List Char)} {cs : List Char} (noMarkup : '<' ∉ cs) :
    Leaves opened cs opened
  | markup {opened inner last : List (List Char)} {text cs rest : List Char} {event : Event}
      (noMarkup : '<' ∉ text) (read : readMarkup opened cs = .ok (event, inner, rest))
      (leaves : Leaves inner rest last) : Leaves opened (text ++ '<' :: cs) last

/-- Markup at the start of a text is read before the rest. -/
theorem Leaves.step {last : List (List Char)}
    (read : readMarkup opened cs = .ok (event, inner, rest))
    (leaves : Leaves inner rest last) : Leaves opened ('<' :: cs) last :=
  .markup (List.not_mem_nil (a := '<')) read leaves

/-! ## What stands behind markup -/

/-- What closes a stretch has its place in it. -/
theorem length_le_of_splitAt? (found : splitAt? closing cs = some (first, rest)) :
    closing.length ≤ cs.length := by
  induction cs generalizing first with
  | nil => cases found
  | cons c cs ih =>
    unfold splitAt? at found
    split at found
    · rename_i isPrefix
      exact (List.isPrefixOf_iff_prefix.mp isPrefix).length_le
    · obtain ⟨⟨a, b⟩, found, rebuilt⟩ := Option.map_eq_some_iff.mp found
      cases rebuilt
      exact Nat.le_succ_of_le (ih found)

/-- Whether a text starts with a shorter one is told by its front. -/
theorem isPrefixOf_more (long : closing.length ≤ cs.length) :
    closing.isPrefixOf (cs ++ more) = closing.isPrefixOf cs := by
  rw [Bool.eq_iff_iff, List.isPrefixOf_iff_prefix, List.isPrefixOf_iff_prefix]
  exact ⟨fun both => List.prefix_of_prefix_length_le both (List.prefix_append cs more) long,
    fun first => first.trans (List.prefix_append cs more)⟩

/-- A text is cut at the same place with more text behind it. -/
theorem splitAt?_more (found : splitAt? closing cs = some (first, rest)) :
    splitAt? closing (cs ++ more) = some (first, rest ++ more) := by
  induction cs generalizing first with
  | nil => cases found
  | cons c cs ih =>
    have long := length_le_of_splitAt? found
    have same : closing.isPrefixOf (c :: (cs ++ more)) = closing.isPrefixOf (c :: cs) :=
      isPrefixOf_more long
    unfold splitAt? at found
    rw [List.cons_append, splitAt?, same]
    split at found
    · rename_i isPrefix
      cases found
      rw [if_pos isPrefix, ← List.cons_append, List.drop_append_of_le_length long]
    · rename_i other
      obtain ⟨⟨a, b⟩, found, rebuilt⟩ := Option.map_eq_some_iff.mp found
      cases rebuilt
      rw [if_neg other, ih found]
      rfl

/-- A tag ends at the same place with more text behind it. -/
theorem splitTag?_more (found : splitTag? quote cs = some (first, rest)) :
    splitTag? quote (cs ++ more) = some (first, rest ++ more) := by
  induction cs generalizing quote first with
  | nil => cases found
  | cons c cs ih =>
    rw [List.cons_append]
    unfold splitTag? at found ⊢
    cases quote with
    | some mark =>
      obtain ⟨⟨a, b⟩, found, rebuilt⟩ := Option.map_eq_some_iff.mp found
      cases rebuilt
      exact congrArg (Option.map (consFirst c)) (ih found)
    | none =>
      dsimp only at found ⊢
      by_cases ends : c = '>'
      · rw [if_pos ends] at found ⊢
        cases found
        rfl
      · rw [if_neg ends] at found ⊢
        obtain ⟨⟨a, b⟩, found, rebuilt⟩ := Option.map_eq_some_iff.mp found
        cases rebuilt
        rw [ih found]
        rfl

/-- A declaration ends at the same place with more text behind it. -/
theorem splitDeclaration?_more (found : splitDeclaration? depth cs = some (first, rest)) :
    splitDeclaration? depth (cs ++ more) = some (first, rest ++ more) := by
  induction cs generalizing depth first with
  | nil => cases found
  | cons c cs ih =>
    rw [List.cons_append]
    unfold splitDeclaration? at found ⊢
    by_cases ends : c = '>'
    · rw [if_pos ends] at found ⊢
      cases depth with
      | zero =>
        cases found
        rfl
      | succ depth =>
        obtain ⟨⟨a, b⟩, found, rebuilt⟩ := Option.map_eq_some_iff.mp found
        cases rebuilt
        exact congrArg (Option.map (consFirst c)) (ih found)
    · rw [if_neg ends] at found ⊢
      obtain ⟨⟨a, b⟩, found, rebuilt⟩ := Option.map_eq_some_iff.mp found
      cases rebuilt
      rw [ih found]
      rfl

/-- An instruction is passed over with more text behind it. -/
theorem passInstruction_more (passed : passInstruction cs = .ok rest) :
    passInstruction (cs ++ more) = .ok (rest ++ more) := by
  cases cs with
  | nil => cases passed
  | cons c cs =>
    unfold passInstruction at passed ⊢
    split at passed
    · cases passed
    · rename_i other
      split at passed
      · rename_i found
        cases passed
        rw [splitAt?_more found]
        exact if_neg other
      · cases passed

/-- A comment is passed over. -/
theorem passDeclaration_comment : passDeclaration ('-' :: '-' :: cs) =
    match splitAt? ['-', '-', '>'] cs with
    | some (_, rest) => .ok rest
    | none => .error .openComment := rfl

/-- A stretch of character data is passed over. -/
theorem passDeclaration_data : passDeclaration ('[' :: cs) =
    if "CDATA[".toList.isPrefixOf cs then
      match splitAt? [']', ']', '>'] cs with
      | some (_, rest) => .ok rest
      | none => .error .openCData
    else .error .openCData := rfl

/-- A document type is passed over. -/
theorem passDeclaration_doctype {c : Char} (isDoctype : c = 'D' ∨ c = 'd') :
    passDeclaration (c :: cs) =
      if ((c :: cs).take 7).map Char.toUpper == "DOCTYPE".toList then
        match splitDeclaration? 0 ((c :: cs).drop 7) with
        | some (content, rest) => if content.all isSpace then .error .unnamedDoctype else .ok rest
        | none => .error .openDoctype
      else .error .openDoctype := by
  rcases isDoctype with rfl | rfl <;> rfl

/-- A declaration is passed over with more text behind it. -/
theorem passDeclaration_more (passed : passDeclaration cs = .ok rest) :
    passDeclaration (cs ++ more) = .ok (rest ++ more) := by
  unfold passDeclaration at passed
  split at passed
  · split at passed
    · split at passed
      · rename_i found
        cases passed
        rw [List.cons_append, List.cons_append, passDeclaration_comment, splitAt?_more found]
      · cases passed
    · cases passed
  · split at passed
    · rename_i isData
      split at passed
      · rename_i found
        cases passed
        have long := (List.isPrefixOf_iff_prefix.mp isData).length_le
        rw [List.cons_append, passDeclaration_data, isPrefixOf_more long, if_pos isData,
          splitAt?_more found]
      · cases passed
    · cases passed
  · rename_i c cs noComment noData
    split at passed
    · rename_i isDoctype
      split at passed
      · rename_i named
        have long : 7 ≤ (c :: cs).length := by
          have letters := congrArg List.length (beq_iff_eq.mp named)
          rw [List.length_map, List.length_take] at letters
          have word : "DOCTYPE".toList.length = 7 := rfl
          omega
        split at passed
        · rename_i found
          split at passed
          · cases passed
          · rename_i content
            cases passed
            rw [List.cons_append, passDeclaration_doctype isDoctype, ← List.cons_append,
              List.take_append_of_le_length long, if_pos named,
              List.drop_append_of_le_length long, splitDeclaration?_more found]
            exact if_neg content
        · cases passed
      · cases passed
    · cases passed
  · cases passed

/-- A whole piece of markup is read the same way whatever stands behind it. -/
theorem readMarkup_more (read : readMarkup opened cs = .ok (event, inner, rest)) :
    readMarkup opened (cs ++ more) = .ok (event, inner, rest ++ more) := by
  unfold readMarkup at read
  split at read
  · cases read
  · obtain ⟨_, passed, same⟩ := Except.map_eq_ok_iff.mp read
    cases same
    show (passDeclaration (_ ++ more)).map _ = _
    rw [passDeclaration_more passed]
    rfl
  · obtain ⟨_, passed, same⟩ := Except.map_eq_ok_iff.mp read
    cases same
    show (passInstruction (_ ++ more)).map _ = _
    rw [passInstruction_more passed]
    rfl
  · split at read
    · rename_i found
      obtain ⟨_, closed, same⟩ := Except.map_eq_ok_iff.mp read
      cases same
      rw [List.cons_append, readMarkup_slash, splitTag?_more found]
      dsimp only
      rw [closed]
      rfl
    · cases read
  · rename_i present bang mark slash
    obtain ⟨c, cs, rfl⟩ := List.exists_cons_of_ne_nil present
    have bang : c ≠ '!' := fun same => bang cs (congrArg (· :: cs) same)
    have mark : c ≠ '?' := fun same => mark cs (congrArg (· :: cs) same)
    have slash : c ≠ '/' := fun same => slash cs (congrArg (· :: cs) same)
    split at read
    · rename_i found
      cases read
      rw [List.cons_append, readMarkup_tag bang mark slash, ← List.cons_append,
        splitTag?_more found]
      rfl
    · cases read

/-- The name of an open element after its first colon, if it has one. -/
def localName (name : List Char) : String :=
  match name.dropWhile (fun c => c != ':') with
  | _ :: name => String.ofList name
  | [] => String.ofList name

/-- What an event does to the names of the open elements. -/
def Event.Moves (event : Event) (opened inner : List (List Char)) : Prop :=
  match event with
  | .opening tag => inner = tag.name :: opened
  | .closing => ∃ name, opened = name :: inner
  | _ => inner = opened

/-- Markup that is read moves the names of the open elements. -/
theorem readMarkup_moves (read : readMarkup opened cs = .ok (event, inner, rest)) :
    event.Moves opened inner := by
  unfold readMarkup at read
  split at read
  · cases read
  · obtain ⟨_, _, same⟩ := Except.map_eq_ok_iff.mp read
    cases same
    exact rfl
  · obtain ⟨_, _, same⟩ := Except.map_eq_ok_iff.mp read
    cases same
    exact rfl
  · split at read
    · obtain ⟨outer, closed, same⟩ := Except.map_eq_ok_iff.mp read
      cases same
      unfold closeElement at closed
      split at closed
      · cases closed
      · split at closed
        · cases closed
          exact ⟨_, rfl⟩
        · cases closed
    · cases read
  · split at read
    · cases read
      split <;> exact rfl
    · cases read

end QualityGates.Xml
