import Mathlib.Algebra.Order.Ring.Nat
import QualityGates.Proofs.Pattern.Stretch

/-!
# Patterns read from their written form

Reading goes through a written form piece by piece. `LeadsTo` says what a group has come to when
reading has passed over the front of a text. Quoted characters come to themselves, whatever meaning
they have unquoted, so literal texts and numbers can be put into the written form of a pattern.
-/

namespace QualityGates.Pattern

variable {g g' g'' : Group} {cs rest rest' rest'' : List Char} {c : Char} {p : Pattern}
  {fuel size : Nat}

/-- Reading goes on behind the front of a text with what the group has come to by it. -/
def LeadsTo (g : Group) (cs : List Char) (g' : Group) (rest : List Char) : Prop :=
  ∀ fuel, cs.length < fuel →
    ∃ fuel' ≤ fuel, rest.length < fuel' ∧ readGroup fuel {} g cs = readGroup fuel' {} g' rest

namespace LeadsTo

/-- Without reading anything, a group stays as it is. -/
theorem refl (g : Group) (cs : List Char) : LeadsTo g cs g cs :=
  fun fuel enough => ⟨fuel, Nat.le_refl fuel, enough, rfl⟩

/-- Reading goes on from where it came to. -/
theorem trans (first : LeadsTo g cs g' rest) (second : LeadsTo g' rest g'' rest') :
    LeadsTo g cs g'' rest' := by
  intro fuel enough
  obtain ⟨fuel', less, enough', same⟩ := first fuel enough
  obtain ⟨fuel'', less', enough'', same'⟩ := second fuel' enough'
  exact ⟨fuel'', Nat.le_trans less' less, enough'', same.trans same'⟩

/-- A step that takes one unit of fuel passes over at least one character. -/
theorem of_step (shorter : rest.length < cs.length)
    (step : ∀ fuel, readGroup (fuel + 1) {} g cs = readGroup fuel {} g' rest) :
    LeadsTo g cs g' rest := by
  intro fuel enough
  obtain ⟨less, rfl⟩ := Nat.exists_eq_add_one_of_ne_zero (Nat.ne_of_gt (Nat.zero_lt_of_lt enough))
  exact ⟨less, Nat.le_succ less, by omega, step less⟩

end LeadsTo

/-! ## Single pieces -/

/-- A character without a meaning of its own stands for itself. -/
theorem leadsTo_plain (plain : isMeta c = false) :
    LeadsTo g (c :: rest) (g.pushSet (.one c)) rest := by
  refine .of_step (Nat.lt_succ_self _) fun fuel => ?_
  have ne {d : Char} (special : isMeta d = true) : c ≠ d := by
    rintro rfl
    exact Bool.false_ne_true (plain.symm.trans special)
  have shown : skipVerbose {} (c :: rest) = c :: rest := rfl
  rw [readGroup, shown]
  split
  case h_14 same =>
    cases same
    rfl
  all_goals rename_i same
  all_goals cases same
  all_goals exact absurd rfl (ne (by decide))

/-- A character with a meaning of its own stands for itself behind a backslash. -/
theorem readEscape_meta (special : isMeta c = true) :
    readEscape {} (c :: rest) = some (.literal c, rest) := by
  have escapable : isEscapable c = true := by
    unfold isEscapable
    rw [special, Bool.true_or]
  unfold readEscape
  dsimp only
  split
  case h_24 => rw [if_pos escapable]
  all_goals exact absurd special (by decide)

/-- Behind a backslash, what it stands for is added. -/
theorem readGroup_backslash : readGroup (fuel + 1) {} g ('\\' :: cs) =
    match readEscape {} cs with
    | some (.literal c, after) => readGroup fuel {} (g.pushSet (literalSet {} c)) after
    | some (.set s, after) => readGroup fuel {} (g.pushSet s) after
    | some (.edge e, after) => readGroup fuel {} (g.push (.edge e) 1) after
    | none => none := rfl

/-- A character with a meaning of its own stands for itself behind a backslash. -/
theorem leadsTo_escaped (special : isMeta c = true) :
    LeadsTo g ('\\' :: c :: rest) (g.pushSet (.one c)) rest := by
  refine .of_step (Nat.lt_add_of_pos_right Nat.two_pos) fun fuel => ?_
  rw [readGroup_backslash, readEscape_meta special]
  rfl

/-- A group with the characters of a text behind its pieces. -/
def Group.spell (g : Group) (cs : List Char) : Group :=
  cs.foldl (fun g c => g.pushSet (.one c)) g

/-- A text adds a piece for each of its characters. -/
theorem Group.spell_eq (g : Group) (cs : List Char) : g.spell cs =
    { g with
      pieces := (cs.map fun c => ⟨char (.one c), c.utf8Size, true⟩).reverse ++ g.pieces
      size := g.size + (cs.map Char.utf8Size).sum } := by
  unfold Group.spell
  induction cs generalizing g with
  | nil => rfl
  | cons c cs ih =>
    rw [List.foldl_cons, ih, List.map_cons, List.map_cons, List.reverse_cons, List.append_assoc,
      List.sum_cons, ← Nat.add_assoc]
    rfl

/-- The patterns of the current row. -/
def Group.row (g : Group) : List Pattern :=
  g.pieces.reverse.map Piece.pattern

@[simp] theorem Group.row_push (g : Group) (p : Pattern) (size : Nat) :
    (g.push p size).row = g.row ++ [p] := by
  rw [Group.row, Group.push, List.reverse_cons, List.map_append]
  rfl

@[simp] theorem Group.row_spell (g : Group) (cs : List Char) :
    (g.spell cs).row = g.row ++ cs.map fun c => char (.one c) := by
  rw [Group.spell_eq, Group.row, List.reverse_append, List.reverse_reverse, List.map_append,
    List.map_map]
  rfl

@[simp] theorem Group.size_spell (g : Group) (cs : List Char) :
    (g.spell cs).size = g.size + (cs.map Char.utf8Size).sum := by
  rw [Group.spell_eq]

@[simp] theorem Group.names_spell (g : Group) (cs : List Char) : (g.spell cs).names = g.names := by
  rw [Group.spell_eq]

@[simp] theorem Group.alternatives_spell (g : Group) (cs : List Char) :
    (g.spell cs).alternatives = g.alternatives := by
  rw [Group.spell_eq]

/-- Quoted characters stand for themselves. -/
theorem leadsTo_quoteChars (cs rest : List Char) :
    LeadsTo g (quoteChars cs ++ rest) (g.spell cs) rest := by
  induction cs generalizing g with
  | nil => exact .refl g rest
  | cons c cs ih =>
    have quoted : LeadsTo g (quoteChars (c :: cs) ++ rest) (g.pushSet (.one c))
        (quoteChars cs ++ rest) := by
      unfold quoteChars
      rw [List.flatMap_cons]
      cases special : isMeta c with
      | true =>
        rw [if_pos rfl]
        exact leadsTo_escaped special
      | false =>
        rw [if_neg Bool.false_ne_true]
        exact leadsTo_plain special
    exact quoted.trans ih

/-- Characters are quoted one by one. -/
theorem quoteChars_append (cs rest : List Char) :
    quoteChars (cs ++ rest) = quoteChars cs ++ quoteChars rest :=
  List.flatMap_append

/-- Quoted characters start with nothing that has a meaning of its own but a backslash. -/
theorem head?_quoteChars (special : isMeta c = true) (other : c ≠ '\\') (cs rest : List Char) :
    (quoteChars cs ++ '\\' :: rest).head? ≠ some c := by
  cases cs with
  | nil => exact fun same => other (Option.some.inj same).symm
  | cons d cs =>
    unfold quoteChars
    rw [List.flatMap_cons]
    cases quoted : isMeta d with
    | true => exact fun same => other (Option.some.inj same).symm
    | false =>
      rintro same
      cases same
      exact Bool.false_ne_true (quoted.symm.trans special)

/-- Digits are not quoted. -/
theorem quoteChars_of_digits (digits : ∀ c ∈ cs, Number.isDigit c = true) : quoteChars cs = cs := by
  have plain : ∀ c ∈ cs, isMeta c = false := by
    intro c member
    have noDigit : "\\.+*?()|[]\x7b\x7d^$#&-~".toList.all (fun d => !Number.isDigit d) = true := by
      decide
    rw [Bool.eq_false_iff]
    intro special
    have other := List.all_eq_true.mp noDigit c (List.contains_iff_mem.mp special)
    rw [digits c member] at other
    exact Bool.false_ne_true other
  unfold quoteChars
  rw [List.flatMap_congr fun c member => if_neg (Bool.eq_false_iff.mp (plain c member)),
    List.flatMap_singleton']

/-- The edge of a word, unless a brace follows. -/
theorem leadsTo_wordEdge (noBrace : rest.head? ≠ some '\x7b') :
    LeadsTo g ('\\' :: 'b' :: rest) (g.push (.edge .wordEdge) 1) rest := by
  refine .of_step (Nat.lt_add_of_pos_right Nat.two_pos) fun fuel => ?_
  have edge : readEscape {} ('b' :: rest) = some (.edge .wordEdge, rest) := by
    show readWordEdge rest = _
    unfold readWordEdge
    split
    · exact absurd rfl noBrace
    · rfl
  rw [readGroup_backslash, edge]

/-- A plus repeats the last piece. -/
theorem readGroup_plus : readGroup (fuel + 1) {} g ('+' :: rest) =
    match g.repeated plus 1 with
    | some g => readGroup fuel {} g (skipLazy rest)
    | none => none := rfl

/-- One or more digits. -/
theorem leadsTo_digits (noMark : rest.head? ≠ some '?') :
    LeadsTo g ('\\' :: 'd' :: '+' :: rest) (g.push (.plus (.char .digit)) 151) rest := by
  have set : LeadsTo g ('\\' :: 'd' :: '+' :: rest) (g.pushSet .digit) ('+' :: rest) :=
    .of_step (Nat.lt_add_of_pos_right Nat.two_pos) fun fuel => rfl
  refine set.trans (.of_step (Nat.lt_succ_self _) fun fuel => ?_)
  have kept : skipLazy rest = rest := by
    unfold skipLazy
    split
    · exact absurd rfl noMark
    · rfl
  have repeated : (g.pushSet .digit).repeated plus 1 =
      some (g.push (.plus (.char .digit)) 151) := by
    have size : g.size + 150 - 150 + (150 * 1 + 1) = g.size + 151 := by omega
    show some (Group.mk _ _ (g.size + 150 - 150 + (150 * 1 + 1)) _) = _
    rw [size]
    rfl
  rw [readGroup_plus, repeated]
  dsimp only
  rw [kept]

/-- The written form of texts with digits behind each. -/
def numberedChars (texts : List (List Char)) : List Char :=
  texts.flatMap fun cs => quoteChars cs ++ ['\\', 'd', '+']

/-- Texts with digits behind each, as rows. -/
def numberedRows (texts : List (List Char)) : List (List Pattern) :=
  texts.flatMap fun cs => [cs.map fun c => char (.one c), [plus (char .digit)]]

/-- Where quoted characters or an escape follow, a mark does not. -/
theorem head?_numberedChars (special : isMeta c = true) (other : c ≠ '\\')
    (texts : List (List Char)) (rest : List Char) :
    (numberedChars texts ++ '\\' :: rest).head? ≠ some c := by
  cases texts with
  | nil => exact fun same => other (Option.some.inj same).symm
  | cons cs texts =>
    unfold numberedChars
    rw [List.flatMap_cons, List.append_assoc, List.append_assoc]
    exact head?_quoteChars special other cs _

/-- Texts with digits behind each add their rows. -/
theorem exists_leadsTo_numbered (texts : List (List Char)) (rest : List Char) :
    ∃ g', LeadsTo g (numberedChars texts ++ '\\' :: rest) g' ('\\' :: rest) ∧
      g'.row = g.row ++ (numberedRows texts).flatten ∧
      g'.size = g.size + (texts.flatten.map Char.utf8Size).sum + 151 * texts.length ∧
      g'.alternatives = g.alternatives := by
  induction texts generalizing g with
  | nil => exact ⟨g, .refl _ _, (List.append_nil _).symm, rfl, rfl⟩
  | cons cs texts ih =>
    obtain ⟨g', leads, row, size, alternatives⟩ :=
      ih (g := (g.spell cs).push (.plus (.char .digit)) 151)
    refine ⟨g', ?_, ?_, ?_, alternatives.trans (g.alternatives_spell cs)⟩
    · have digits := leadsTo_digits (g := g.spell cs)
        (head?_numberedChars (c := '?') (by decide) (by decide) texts rest)
      have chars : numberedChars (cs :: texts) ++ '\\' :: rest = quoteChars cs ++
          '\\' :: 'd' :: '+' :: (numberedChars texts ++ '\\' :: rest) := by
        rw [numberedChars, List.flatMap_cons, List.append_assoc, List.append_assoc]
        rfl
      rw [chars]
      exact (leadsTo_quoteChars cs _).trans (digits.trans leads)
    · have rows : (numberedRows (cs :: texts)).flatten =
          (cs.map fun c => char (.one c)) ++ [plus (char .digit)] ++
            (numberedRows texts).flatten := by
        rw [List.append_assoc]
        rfl
      rw [row, rows, Group.row_push, Group.row_spell, List.append_assoc, List.append_assoc,
        List.append_assoc]
    · have total : ((cs :: texts).flatten.map Char.utf8Size).sum =
          (cs.map Char.utf8Size).sum + (texts.flatten.map Char.utf8Size).sum := by
        rw [List.flatten_cons, List.map_append, List.sum_append]
      have pushed : Group.size ((g.spell cs).push (.plus (.char .digit)) 151) =
          g.size + (cs.map Char.utf8Size).sum + 151 := congrArg (· + 151) (g.size_spell cs)
      rw [size, pushed, total, List.length_cons]
      omega

/-- The next alternative. -/
theorem leadsTo_bar : LeadsTo g ('|' :: rest) g.next rest :=
  .of_step (Nat.lt_succ_self _) fun _ => rfl

/-- Quoted texts with bars between them are a choice of these texts. -/
theorem exists_leadsTo_choice {texts : List (List Char)} (present : texts ≠ [])
    (fresh : g.pieces = []) (rest : List Char) :
    ∃ g', LeadsTo g (List.intercalate ['|'] (texts.map quoteChars) ++ rest) g' rest ∧
      g'.choices = g.alternatives ++ texts.map text ∧
      g'.size = g.size + (texts.flatten.map Char.utf8Size).sum ∧ g'.names = g.names := by
  induction texts generalizing g with
  | nil => exact absurd rfl present
  | cons cs texts ih =>
    have spelled : (g.spell cs).concatenation = text cs := by
      show sequence (g.spell cs).row = _
      rw [g.row_spell, Group.row, fresh, text_eq]
      rfl
    cases texts with
    | nil =>
      refine ⟨g.spell cs, ?_, ?_, ?_, g.names_spell cs⟩
      · rw [List.map_singleton, List.intercalate_singleton]
        exact leadsTo_quoteChars cs rest
      · rw [Group.choices, spelled, g.alternatives_spell, List.map_singleton]
      · rw [g.size_spell, List.flatten_singleton]
    | cons next texts =>
      obtain ⟨g', leads, choices, size', names'⟩ :=
        ih (g := (g.spell cs).next) (List.cons_ne_nil next texts) rfl
      refine ⟨g', ?_, ?_, ?_, names'.trans (g.names_spell cs)⟩
      · rw [List.map_cons, List.map_cons, List.intercalate_cons_cons, List.append_assoc,
          List.append_assoc]
        exact (leadsTo_quoteChars cs _).trans (leadsTo_bar.trans leads)
      · rw [choices]
        show (g.spell cs).alternatives ++ [(g.spell cs).concatenation] ++ _ = _
        rw [g.alternatives_spell, spelled, List.append_assoc]
        rfl
      · have total : ((cs :: next :: texts).flatten.map Char.utf8Size).sum =
            (cs.map Char.utf8Size).sum + ((next :: texts).flatten.map Char.utf8Size).sum := by
          rw [List.flatten_cons, List.map_append, List.sum_append]
        rw [size', total, ← Nat.add_assoc, ← g.size_spell]
        rfl

/-- A group without a name is read up to its end. -/
theorem readGroup_group : readGroup (fuel + 1) {} g ('(' :: '?' :: ':' :: cs) =
    match readGroup fuel {} { names := g.names } cs with
    | some (nested, ')' :: after) =>
      readGroup fuel {} { g.push nested.pattern (nested.total + 1) with names := nested.names }
        after
    | _ => none := rfl

/-- A group without a name is one piece. -/
theorem leadsTo_group (content : LeadsTo { names := g.names } cs g' (')' :: rest)) :
    LeadsTo g ('(' :: '?' :: ':' :: cs)
      { g.push g'.pattern (g'.total + 1) with names := g'.names } rest := by
  intro fuel enough
  rw [List.length_cons, List.length_cons, List.length_cons] at enough
  obtain ⟨less, rfl⟩ := Nat.exists_eq_add_one_of_ne_zero (Nat.ne_of_gt (Nat.zero_lt_of_lt enough))
  obtain ⟨left, fewer, enough', read⟩ := content less (by omega)
  have positive : left ≠ 0 := Nat.ne_of_gt (Nat.zero_lt_of_lt enough')
  obtain ⟨lesser, rfl⟩ := Nat.exists_eq_add_one_of_ne_zero positive
  rw [List.length_cons] at enough'
  refine ⟨less, Nat.le_succ less, by omega, ?_⟩
  rw [readGroup_group, read]
  rfl

/-- A choice of one is no choice. -/
@[simp] theorem choiceSize_one (areTexts : Bool) (steps : Nat) :
    choiceSize areTexts 1 steps = steps := by
  cases areTexts <;> rfl

/-- A group without a bar takes what its pieces take. -/
theorem Group.total_of_alone (alone : g.alternatives = []) : g.total = g.size := by
  rw [Group.total, Group.choices, alone]
  exact choiceSize_one _ _

/-- A text of at least one character is known as one. -/
theorem isText_text (cs : List Char) : isText (text cs) = !cs.isEmpty := by
  induction cs with
  | nil => rfl
  | cons c rest ih =>
    cases rest with
    | nil => rfl
    | cons d rest => exact ih

/-- How many steps a choice between some texts takes. -/
def textsSize (texts : List (List Char)) : Nat :=
  choiceSize (texts.all fun cs => !cs.isEmpty) texts.length
    (texts.flatten.map Char.utf8Size).sum

/-- A group of texts takes what the choice between them takes. -/
theorem Group.total_of_texts {texts : List (List Char)} (choices : g.choices = texts.map text)
    (size : g.size = (texts.flatten.map Char.utf8Size).sum) : g.total = textsSize texts := by
  have areTexts : (texts.map text).all isText = texts.all fun cs => !cs.isEmpty := by
    rw [List.all_map]
    exact congrArg _ (funext isText_text)
  rw [Group.total, choices, size, List.length_map, areTexts]
  rfl

/-- A text that reading passes over as a whole is read as the pattern of what its group has come to,
unless that is too large. -/
theorem ofChars?_eq (whole : LeadsTo {} cs g []) :
    ofChars? cs = if g.total ≤ sizeLimit then some g.pattern else none := by
  obtain ⟨fuel, _, enough, read⟩ := whole (2 * cs.length + 1) (by omega)
  obtain ⟨less, rfl⟩ := Nat.exists_eq_add_one_of_ne_zero (Nat.ne_of_gt enough)
  unfold ofChars?
  rw [read]
  rfl

/-- A row between edges of words. -/
theorem ofChars?_edged (noBrace : (cs ++ ['\\', 'b']).head? ≠ some '\x7b')
    (alone : g.alternatives = [])
    (leads : LeadsTo (Group.push {} (.edge .wordEdge) 1) (cs ++ ['\\', 'b']) g ['\\', 'b']) :
    ofChars? ('\\' :: 'b' :: (cs ++ ['\\', 'b'])) =
      if g.size + 1 ≤ sizeLimit then some (sequence (g.row ++ [.edge .wordEdge])) else none := by
  have whole : LeadsTo {} ('\\' :: 'b' :: (cs ++ ['\\', 'b'])) (g.push (.edge .wordEdge) 1) [] :=
    (leadsTo_wordEdge noBrace).trans (leads.trans (leadsTo_wordEdge (by simp)))
  have total : (g.push (.edge .wordEdge) 1).total = g.size + 1 := Group.total_of_alone alone
  rw [ofChars?_eq whole, total, ← g.row_push _ 1]
  show (if g.size + 1 ≤ sizeLimit then some (anyOf (g.alternatives ++ [_])) else none) = _
  rw [alone]
  rfl

/-- Texts with digits behind each, between edges of words. -/
theorem ofChars?_numbered (texts : List (List Char)) :
    ofChars? ('\\' :: 'b' :: (numberedChars texts ++ ['\\', 'b'])) =
      if (texts.flatten.map Char.utf8Size).sum + 151 * texts.length + 2 ≤ sizeLimit then
        some (sequence ([.edge .wordEdge] ++ (numberedRows texts).flatten ++ [.edge .wordEdge]))
      else none := by
  obtain ⟨g, leads, row, size, alternatives⟩ := exists_leadsTo_numbered texts ['b']
    (g := Group.push {} (.edge .wordEdge) 1)
  have noBrace : (numberedChars texts ++ ['\\', 'b']).head? ≠ some '\x7b' :=
    head?_numberedChars (by decide) (by decide) texts ['b']
  have total : g.size + 1 =
      (texts.flatten.map Char.utf8Size).sum + 151 * texts.length + 2 := by
    rw [size, show Group.size (Group.push {} (.edge .wordEdge) 1) = 1 from rfl]
    omega
  rw [ofChars?_edged noBrace alternatives leads, total, row]
  rfl

/-- Quoted texts with bars between them, as one whole word. -/
theorem ofChars?_choice {texts : List (List Char)} (present : texts ≠ []) :
    ofChars? ("\\b(?:".toList ++ List.intercalate ['|'] (texts.map quoteChars) ++ ")\\b".toList) =
      if textsSize texts + 3 ≤ sizeLimit then some (anyOf (texts.map text)).wholeWord
      else none := by
  let start : Group := Group.push {} (.edge .wordEdge) 1
  obtain ⟨content, leads, choices, size, _⟩ :=
    exists_leadsTo_choice (g := { names := start.names }) present rfl (')' :: ['\\', 'b'])
  have whole : LeadsTo {} ('\\' :: 'b' :: '(' :: '?' :: ':' ::
      (List.intercalate ['|'] (texts.map quoteChars) ++ ')' :: ['\\', 'b'])) _ [] :=
    (leadsTo_wordEdge (by simp)).trans
      ((leadsTo_group leads).trans (leadsTo_wordEdge (by simp)))
  have read := ofChars?_eq whole
  have chars : "\\b(?:".toList ++ List.intercalate ['|'] (texts.map quoteChars) ++ ")\\b".toList =
      '\\' :: 'b' :: '(' :: '?' :: ':' ::
        (List.intercalate ['|'] (texts.map quoteChars) ++ ')' :: ['\\', 'b']) := by
    rw [List.append_assoc]
    rfl
  have inner : content.total = textsSize texts :=
    Group.total_of_texts choices (size.trans (Nat.zero_add _))
  have pattern : content.pattern = anyOf (texts.map text) := congrArg anyOf choices
  have total : 0 + 1 + (content.total + 1) + 1 = textsSize texts + 3 := by omega
  rw [chars, read, Group.total_of_alone rfl]
  show (if 0 + 1 + (content.total + 1) + 1 ≤ sizeLimit then some content.pattern.wholeWord
    else none) = _
  rw [total, pattern]

end QualityGates.Pattern
