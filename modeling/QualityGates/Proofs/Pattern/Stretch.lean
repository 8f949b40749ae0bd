import Mathlib.Data.List.Basic
import QualityGates.Proofs.Pattern.Search
import QualityGates.Rule

/-!
# Stretches of a line

A line in which a pattern is found is cut in three: what stands before the stretch that matches, the
stretch, and what stands behind it. `Pattern.Fits` says this of the three parts, and the lemmas here
say it part by part of a pattern, so that what a rule looks for can be read off its pattern.
-/

namespace QualityGates

namespace Place

/-- The place between two parts of a line. -/
def cut (before behind : List Char) : Place where
  before := before.getLast?
  rest := behind

/-- The places of a line are those between its parts. -/
theorem mem_all_iff {line : List Char} {a : Place} :
    a ∈ all line ↔ ∃ before behind, line = before ++ behind ∧ a = cut before behind := by
  have general : ∀ front : List Char, a ∈ allFrom front.getLast? line ↔
      ∃ before behind, line = before ++ behind ∧ a = cut (front ++ before) behind := by
    induction line with
    | nil =>
      intro front
      rw [allFrom, List.mem_singleton]
      constructor
      · rintro rfl
        exact ⟨[], [], rfl, by rw [List.append_nil]; rfl⟩
      · rintro ⟨before, behind, split, rfl⟩
        obtain ⟨rfl, rfl⟩ := List.append_eq_nil_iff.mp split.symm
        rw [List.append_nil]
        rfl
    | cons c rest ih =>
      intro front
      have next : some c = (front ++ [c]).getLast? := List.getLast?_concat.symm
      rw [allFrom, List.mem_cons, next, ih]
      constructor
      · rintro (rfl | ⟨before, behind, rfl, rfl⟩)
        · exact ⟨[], c :: rest, rfl, by rw [List.append_nil]; rfl⟩
        · exact ⟨c :: before, behind, rfl, by rw [List.append_assoc]; rfl⟩
      · rintro ⟨before, behind, split, rfl⟩
        cases before with
        | nil =>
          obtain rfl : c :: rest = behind := split
          rw [List.append_nil]
          exact .inl rfl
        | cons d before =>
          obtain ⟨rfl, rfl⟩ := List.cons_eq_cons.mp split
          exact .inr ⟨before, behind, rfl, by rw [List.append_assoc]; rfl⟩
  exact general []

end Place

/-- There is an edge of a word between two parts of a line when one of the characters at it belongs
to a word and the other one does not; the ends of a line belong to no word. -/
def Text.WordEdge (before behind : List Char) : Prop :=
  Xor (∃ c ∈ before.getLast?, isWordChar c = true) (∃ c ∈ behind.head?, isWordChar c = true)

namespace Pattern

open Place (cut)

/-- A stretch matches between what stands before it and what stands behind it. -/
def Fits (p : Pattern) (before stretch behind : List Char) : Prop :=
  Spans p (cut before (stretch ++ behind)) (cut (before ++ stretch) behind)

variable {p q : Pattern} {s : CharSet} {e : Edge} {before stretch behind cs : List Char}
  {ps qs : List Pattern} {a b : Place}

/-- What matches from a place is a stretch behind it. -/
theorem exists_stretch (spans : Spans p a b) (from_cut : a.before = before.getLast?) :
    ∃ stretch, a.rest = stretch ++ b.rest ∧ b = cut (before ++ stretch) b.rest := by
  induction spans generalizing before with
  | empty a | edge _ | starNil a =>
    refine ⟨[], rfl, ?_⟩
    rw [List.append_nil, cut, ← from_cut]
  | char member =>
    refine ⟨[_], rfl, ?_⟩
    rw [cut, List.getLast?_concat]
  | altLeft _ ih | altRight _ ih => exact ih from_cut
  | seq _ _ ihLeft ihRight | starCons _ _ ihLeft ihRight =>
    obtain ⟨first, front, middle⟩ := ihLeft from_cut
    obtain ⟨second, back, last⟩ := ihRight (congrArg Place.before middle)
    exact ⟨first ++ second, by rw [front, back, List.append_assoc],
      by rw [← List.append_assoc]; exact last⟩

/-- What matches from a place between two parts ends between two parts. -/
theorem exists_fits (spans : Spans p (cut before behind) b) :
    ∃ stretch rest, behind = stretch ++ rest ∧ b = cut (before ++ stretch) rest ∧
      p.Fits before stretch rest := by
  obtain ⟨stretch, split, last⟩ := exists_stretch spans rfl
  refine ⟨stretch, b.rest, split, last, ?_⟩
  unfold Fits
  rw [← last, ← split]
  exact spans

/-- A pattern is found in a line exactly when the line has a stretch that fits between the rest. -/
theorem isIn_iff {line : String} : p.isIn line = true ↔
    ∃ before stretch behind, line.toList = before ++ stretch ++ behind ∧
      p.Fits before stretch behind := by
  unfold isIn
  rw [matchesChars_iff]
  constructor
  · rintro ⟨a, place, b, spans⟩
    obtain ⟨before, behind, split, rfl⟩ := Place.mem_all_iff.mp place
    obtain ⟨stretch, rest, rfl, _, fits⟩ := exists_fits spans
    exact ⟨before, stretch, rest, by rw [split, List.append_assoc], fits⟩
  · rintro ⟨before, stretch, behind, split, fits⟩
    rw [List.append_assoc] at split
    exact ⟨_, Place.mem_all_iff.mpr ⟨before, _, split, rfl⟩, _, fits⟩

/-- Patterns that fit the same stretches are found in the same lines. -/
theorem isIn_congr (alike : ∀ before stretch behind,
    p.Fits before stretch behind ↔ q.Fits before stretch behind) (line : String) :
    p.isIn line = q.isIn line := by
  rw [Bool.eq_iff_iff, isIn_iff, isIn_iff]
  simp only [alike]

/-! ## Parts of patterns -/

/-- The empty pattern fits the empty stretch. -/
theorem fits_empty_iff : empty.Fits before stretch behind ↔ stretch = [] := by
  constructor
  · intro fits
    unfold Fits at fits
    generalize start : cut before (stretch ++ behind) = a at fits
    generalize finish : cut (before ++ stretch) behind = b at fits
    cases fits
    have same : stretch ++ behind = behind := congrArg Place.rest (start.trans finish.symm)
    exact List.append_left_eq_self.mp same
  · rintro rfl
    unfold Fits
    rw [List.append_nil]
    exact .empty _

/-- An edge fits the empty stretch where it holds. -/
theorem fits_edge_iff : (edge e).Fits before stretch behind ↔
    stretch = [] ∧ e.holds (cut before behind) = true := by
  constructor
  · intro fits
    unfold Fits at fits
    generalize start : cut before (stretch ++ behind) = a at fits
    generalize finish : cut (before ++ stretch) behind = b at fits
    cases fits with
    | edge holds =>
      have same : stretch ++ behind = behind := congrArg Place.rest (start.trans finish.symm)
      obtain rfl : stretch = [] := List.append_left_eq_self.mp same
      rw [← start] at holds
      exact ⟨rfl, holds⟩
  · rintro ⟨rfl, holds⟩
    unfold Fits
    rw [List.append_nil]
    exact .edge holds

/-- A set of characters fits one of them. -/
theorem fits_char_iff : (char s).Fits before stretch behind ↔
    ∃ c, stretch = [c] ∧ s.contains c = true := by
  constructor
  · intro fits
    unfold Fits at fits
    cases stretch with
    | nil =>
      generalize start : cut before ([] ++ behind) = a at fits
      generalize finish : cut (before ++ []) behind = b at fits
      cases fits with
      | @char _ _ c rest member =>
        have longer : c :: rest = rest := congrArg Place.rest
          (start.symm.trans ((congrArg (cut · behind) (List.append_nil before).symm).trans finish))
        exact absurd longer (List.cons_ne_self c rest)
    | cons c rest =>
      obtain ⟨member, last⟩ := Spans.char_cons_iff.mp fits
      have same : behind = rest ++ behind := congrArg Place.rest last
      rw [List.append_left_eq_self.mp same.symm]
      exact ⟨c, rfl, member⟩
  · rintro ⟨c, rfl, member⟩
    unfold Fits cut
    rw [List.getLast?_concat]
    exact .char member

/-- Two patterns in a row fit two stretches in a row. -/
theorem fits_seq_iff : (seq p q).Fits before stretch behind ↔
    ∃ first second, stretch = first ++ second ∧ p.Fits before first (second ++ behind) ∧
      q.Fits (before ++ first) second behind := by
  constructor
  · intro fits
    unfold Fits at fits
    generalize finish : cut (before ++ stretch) behind = b at fits
    cases fits with
    | seq left right =>
      obtain ⟨first, rest, front, rfl, fitsLeft⟩ := exists_fits left
      obtain ⟨second, rest', rfl, rfl, fitsRight⟩ := exists_fits right
      obtain rfl : behind = rest' := congrArg Place.rest finish
      rw [← List.append_assoc] at front
      exact ⟨first, second, List.append_cancel_right front, fitsLeft, fitsRight⟩
  · rintro ⟨first, second, rfl, left, right⟩
    unfold Fits at left right ⊢
    rw [List.append_assoc first, ← List.append_assoc before]
    exact .seq left right

/-- A choice of two patterns fits what one of them fits. -/
theorem fits_alt_iff : (alt p q).Fits before stretch behind ↔
    p.Fits before stretch behind ∨ q.Fits before stretch behind := by
  unfold Fits
  constructor
  · intro fits
    cases fits with
    | altLeft fits => exact .inl fits
    | altRight fits => exact .inr fits
  · rintro (fits | fits)
    · exact .altLeft fits
    · exact .altRight fits

/-- Any number of characters of a set. -/
theorem fits_star_char_iff : (star (char s)).Fits before stretch behind ↔
    ∀ c ∈ stretch, s.contains c = true := by
  induction stretch generalizing before with
  | nil =>
    refine iff_of_true ?_ nofun
    unfold Fits
    rw [List.append_nil]
    exact .starNil _
  | cons c rest ih =>
    have shorter : cut (before ++ c :: rest) behind ≠ cut before (c :: rest ++ behind) := by
      intro same
      have longer : behind = c :: rest ++ behind := congrArg Place.rest same
      exact List.cons_ne_nil c rest (List.append_left_eq_self.mp longer.symm)
    have next : (⟨some c, rest ++ behind⟩ : Place) = cut (before ++ [c]) (rest ++ behind) := by
      rw [cut, List.getLast?_concat]
    have steps : (star (char s)).Fits before (c :: rest) behind ↔
        cut (before ++ c :: rest) behind = cut before (c :: rest ++ behind) ∨
          (s.contains c = true ∧ Spans (.star (.char s)) ⟨some c, rest ++ behind⟩
            (cut (before ++ c :: rest) behind)) := Spans.star_char_cons_iff
    rw [steps, or_iff_right shorter, next, List.forall_mem_cons, ← ih, Fits,
      List.append_cons before c rest]

/-- One or more characters of a set. -/
theorem fits_plus_char_iff : (plus (char s)).Fits before stretch behind ↔
    stretch ≠ [] ∧ ∀ c ∈ stretch, s.contains c = true := by
  unfold plus
  simp only [fits_seq_iff, fits_char_iff, fits_star_char_iff]
  constructor
  · rintro ⟨_, more, rfl, ⟨c, rfl, member⟩, all⟩
    exact ⟨List.cons_ne_nil c more, List.forall_mem_cons.mpr ⟨member, all⟩⟩
  · rintro ⟨present, all⟩
    obtain ⟨c, more, rfl⟩ := List.exists_cons_of_ne_nil present
    rw [List.forall_mem_cons] at all
    exact ⟨[c], more, rfl, ⟨c, rfl, all.1⟩, all.2⟩

/-! ## Rows and choices -/

/-- An empty row fits the empty stretch. -/
theorem fits_sequence_nil_iff : (sequence []).Fits before stretch behind ↔ stretch = [] :=
  fits_empty_iff

/-- The first part of a row stands in front of the others. -/
theorem fits_sequence_cons_iff : (sequence (p :: ps)).Fits before stretch behind ↔
    ∃ first second, stretch = first ++ second ∧ p.Fits before first (second ++ behind) ∧
      (sequence ps).Fits (before ++ first) second behind := by
  cases ps with
  | nil =>
    simp only [fits_sequence_nil_iff]
    constructor
    · intro fits
      exact ⟨stretch, [], (List.append_nil stretch).symm, fits, rfl⟩
    · rintro ⟨first, _, rfl, fits, rfl⟩
      rw [List.append_nil]
      exact fits
  | cons q ps => exact fits_seq_iff

/-- A row in front of another one. -/
theorem fits_sequence_append_iff : (sequence (ps ++ qs)).Fits before stretch behind ↔
    ∃ first second, stretch = first ++ second ∧ (sequence ps).Fits before first (second ++ behind) ∧
      (sequence qs).Fits (before ++ first) second behind := by
  induction ps generalizing before stretch with
  | nil =>
    simp only [List.nil_append, fits_sequence_nil_iff]
    constructor
    · intro fits
      exact ⟨[], stretch, rfl, rfl, by rw [List.append_nil]; exact fits⟩
    · rintro ⟨_, second, rfl, rfl, fits⟩
      rw [List.append_nil] at fits
      exact fits
  | cons p ps ih =>
    simp only [List.cons_append, fits_sequence_cons_iff, ih]
    constructor
    · rintro ⟨first, _, rfl, fits, second, third, rfl, fitsSecond, fitsThird⟩
      rw [List.append_assoc] at fits fitsThird
      exact ⟨first ++ second, third, (List.append_assoc ..).symm, ⟨first, second, rfl, fits,
        fitsSecond⟩, fitsThird⟩
    · rintro ⟨_, third, rfl, ⟨first, second, rfl, fits, fitsSecond⟩, fitsThird⟩
      rw [← List.append_assoc] at fits fitsThird
      exact ⟨first, second ++ third, List.append_assoc .., fits, second, third, rfl, fitsSecond,
        fitsThird⟩

/-- Rows in a row are one row. -/
theorem fits_sequence_flatten_iff {rows : List (List Pattern)} :
    (sequence rows.flatten).Fits before stretch behind ↔
      (sequence (rows.map sequence)).Fits before stretch behind := by
  induction rows generalizing before stretch with
  | nil => exact Iff.rfl
  | cons row rows ih =>
    rw [List.flatten_cons, List.map_cons, fits_sequence_append_iff, fits_sequence_cons_iff]
    simp only [ih]

/-- A text is the row of its characters. -/
theorem text_eq (cs : List Char) : text cs = sequence (cs.map fun c => char (.one c)) := by
  induction cs with
  | nil => rfl
  | cons c cs ih =>
    cases cs with
    | nil => rfl
    | cons d cs => exact congrArg (seq (char (.one c))) ih

/-- A text fits itself only. -/
theorem fits_text_iff : (text cs).Fits before stretch behind ↔ stretch = cs := by
  rw [text_eq]
  induction cs generalizing before stretch with
  | nil => exact fits_empty_iff
  | cons c cs ih =>
    rw [List.map_cons]
    simp only [fits_sequence_cons_iff, fits_char_iff, ih, CharSet.contains, beq_iff_eq]
    constructor
    · rintro ⟨_, _, rfl, ⟨_, rfl, rfl⟩, rfl⟩
      rfl
    · rintro rfl
      exact ⟨[c], cs, rfl, ⟨c, rfl, rfl⟩, rfl⟩

/-- A choice fits where one of its members does. -/
theorem fits_anyOf_iff (present : ps ≠ []) : (anyOf ps).Fits before stretch behind ↔
    ∃ p ∈ ps, p.Fits before stretch behind := by
  induction ps with
  | nil => exact absurd rfl present
  | cons p ps ih =>
    cases ps with
    | nil => simp [anyOf]
    | cons q ps =>
      have choice : (anyOf (p :: q :: ps)).Fits before stretch behind ↔ _ := fits_alt_iff
      rw [choice, ih (List.cons_ne_nil q ps)]
      simp only [List.mem_cons, exists_eq_or_imp]

/-! ## Whole words -/

/-- The edge condition holds between two parts exactly where there is an edge of a word. -/
theorem holds_wordEdge_iff : Edge.wordEdge.holds (cut before behind) = true ↔
    Text.WordEdge before behind := by
  have inWord (c : Option Char) : Place.inWord c = true ↔ ∃ d ∈ c, Text.isWordChar d = true := by
    cases c <;> simp [Place.inWord]
  unfold Text.WordEdge
  rw [← inWord, ← inWord, Edge.holds, cut, bne_iff_ne, Xor]
  cases Place.inWord before.getLast? <;> cases Place.inWord behind.head? <;> simp

/-- A whole word fits where the word does and has an edge at either side. -/
theorem fits_wholeWord_iff : p.wholeWord.Fits before stretch behind ↔
    p.Fits before stretch behind ∧ Text.WordEdge before (stretch ++ behind) ∧
      Text.WordEdge (before ++ stretch) behind := by
  unfold wholeWord
  simp only [fits_sequence_cons_iff, fits_edge_iff, fits_sequence_nil_iff, holds_wordEdge_iff]
  constructor
  · rintro ⟨_, _, rfl, ⟨rfl, start⟩, _, _, rfl, fits, _, _, rfl, ⟨rfl, finish⟩, rfl⟩
    simp only [List.nil_append, List.append_nil] at fits start finish ⊢
    exact ⟨fits, start, finish⟩
  · rintro ⟨fits, start, finish⟩
    refine ⟨[], stretch, rfl, ⟨rfl, start⟩, stretch, [], (List.append_nil _).symm, ?_, [], [], rfl,
      ⟨rfl, ?_⟩, rfl⟩
    all_goals simpa only [List.nil_append, List.append_nil]

end Pattern
end QualityGates
