import Mathlib.Data.List.Count
import Mathlib.Logic.Relation
import QualityGates.Pattern.Meaning

/-!
# Searching a line for a pattern

Searching works on marks for all places of a line at once. A step of the search marks the places
that the stretches from marked places end at, and for a repetition it is taken until no place is
marked anew. So a search marks exactly the places where matching stretches end, and it finds a
pattern in a line exactly when a stretch of the line matches.
-/

namespace QualityGates

namespace Place

variable {before : Option Char} {c : Char} {line : List Char} {b : Place}

/-- Every place of a line has a part of the line behind it. -/
theorem length_rest_le (place : b ∈ allFrom before line) : b.rest.length ≤ line.length := by
  induction line generalizing before with
  | nil =>
    rw [allFrom, List.mem_singleton] at place
    exact Nat.le_of_eq (congrArg (fun b : Place => b.rest.length) place)
  | cons c rest ih =>
    rw [allFrom, List.mem_cons] at place
    rcases place with rfl | behind
    · exact Nat.le_refl _
    · exact Nat.le_succ_of_le (ih behind)

end Place

namespace Spans

variable {p : Pattern} {s : CharSet} {before : Option Char} {c : Char} {rest : List Char}
  {a b : Place}

/-! ## Stretches of repeated parts -/

/-- A stretch of one character of a set moves over it. -/
theorem char_cons_iff :
    Spans (.char s) ⟨before, c :: rest⟩ b ↔ s.contains c = true ∧ b = ⟨some c, rest⟩ := by
  constructor
  · intro spans
    cases spans with
    | char member => exact ⟨member, rfl⟩
  · rintro ⟨member, rfl⟩
    exact .char member

/-- At the end of a line there is no character to move over. -/
theorem not_char_nil : ¬ Spans (.char s) ⟨before, []⟩ b := nofun

/-- Repeated characters of a set move over the next character or stay. -/
theorem star_char_cons_iff :
    Spans (.star (.char s)) ⟨before, c :: rest⟩ b ↔
      b = ⟨before, c :: rest⟩ ∨
        (s.contains c = true ∧ Spans (.star (.char s)) ⟨some c, rest⟩ b) := by
  constructor
  · intro spans
    cases spans with
    | starNil => exact .inl rfl
    | starCons first more =>
      obtain ⟨member, rfl⟩ := char_cons_iff.mp first
      exact .inr ⟨member, more⟩
  · rintro (rfl | ⟨member, more⟩)
    · exact .starNil _
    · exact .starCons (.char member) more

/-- At the end of a line repeated characters stay. -/
theorem star_char_nil_iff :
    Spans (.star (.char s)) ⟨before, []⟩ b ↔ b = ⟨before, []⟩ := by
  constructor
  · intro spans
    cases spans with
    | starNil => rfl
    | starCons first more => exact absurd first not_char_nil
  · rintro rfl
    exact .starNil _

/-- A repetition is a row of stretches. -/
theorem star_iff : Spans (.star p) a b ↔ Relation.ReflTransGen (Spans p) a b := by
  constructor
  · intro spans
    generalize shape : Pattern.star p = q at spans
    induction spans with
    | starNil a => exact .refl
    | starCons first more _ ih =>
      cases shape
      exact .head first (ih rfl)
    | _ => cases shape
  · intro reached
    induction reached using Relation.ReflTransGen.head_induction_on with
    | refl => exact .starNil b
    | head first _ ih => exact .starCons first ih

end Spans

namespace Marks

open Place (allFrom)

/-- A place of the line that starts after `before` has a mark. -/
def Marked (before : Option Char) : (line : List Char) → (marks : Marks) → Place → Prop
  | _, [], _ => False
  | [], mark :: _, place => mark = true ∧ place = ⟨before, []⟩
  | c :: rest, mark :: more, place =>
    (mark = true ∧ place = ⟨before, c :: rest⟩) ∨ Marked (Option.some c) rest more place

/-- There is a mark for every place of a line. -/
abbrev Covers (line : List Char) (marks : Marks) : Prop :=
  marks.length = line.length + 1

variable {before : Option Char} {line : List Char} {marks known fresh : Marks} {a b : Place}
  {s : CharSet} {e : Edge} {p : Pattern} {carried : Bool}

/-! ## One operation on marks -/

/-- Only places of the line are marked. -/
theorem Marked.mem_allFrom (marked : Marked before line marks b) : b ∈ allFrom before line := by
  induction line generalizing before marks with
  | nil =>
    cases marks with
    | nil => exact marked.elim
    | cons mark more => rw [marked.2]; exact List.mem_cons_self
  | cons c rest ih =>
    cases marks with
    | nil => exact marked.elim
    | cons mark more =>
      rcases marked with ⟨_, rfl⟩ | behind
      · exact List.mem_cons_self
      · exact List.mem_cons_of_mem _ (ih behind)

/-- The first place of a line is not marked among those behind it. -/
theorem not_marked_first {c : Char} {rest : List Char} {earlier : Option Char} :
    ¬ Marked before rest marks ⟨earlier, c :: rest⟩ := by
  intro marked
  exact Nat.not_succ_le_self _ (Place.length_rest_le marked.mem_allFrom)

/-- The marks move over a character of the set. -/
theorem marked_advance (first : Bool) :
    Marked before line (first :: marks.advance s line) b ↔
      (first = true ∧ b = ⟨before, line⟩) ∨
        ∃ a, Marked before line marks a ∧ Spans (.char s) a b := by
  induction line generalizing before marks first with
  | nil =>
    cases marks with
    | nil => simp [Marked]
    | cons mark more => simp [Marked, Spans.not_char_nil]
  | cons c rest ih =>
    cases marks with
    | nil => simp [Marked, advance]
    | cons mark more =>
      rw [advance, Marked, ih]
      constructor
      · rintro (here | ⟨moved, rfl⟩ | ⟨a, marked, spans⟩)
        · exact .inl here
        · obtain ⟨isMarked, member⟩ := Bool.and_eq_true_iff.mp moved
          exact .inr ⟨_, .inl ⟨isMarked, rfl⟩, .char member⟩
        · exact .inr ⟨a, .inr marked, spans⟩
      · rintro (here | ⟨a, ⟨isMarked, rfl⟩ | marked, spans⟩)
        · exact .inl here
        · obtain ⟨member, rfl⟩ := Spans.char_cons_iff.mp spans
          exact .inr (.inl ⟨Bool.and_eq_true_iff.mpr ⟨isMarked, member⟩, rfl⟩)
        · exact .inr (.inr ⟨a, marked, spans⟩)

/-- The marks stay where the condition holds. -/
theorem marked_keep : Marked before line (marks.keep e before line) b ↔
    Marked before line marks b ∧ e.holds b = true := by
  induction line generalizing before marks with
  | nil =>
    cases marks with
    | nil => simp [Marked, keep]
    | cons mark more =>
      simp only [Marked, keep, Bool.and_eq_true]
      constructor
      · rintro ⟨⟨isMarked, holds⟩, rfl⟩
        exact ⟨⟨isMarked, rfl⟩, holds⟩
      · rintro ⟨⟨isMarked, rfl⟩, holds⟩
        exact ⟨⟨isMarked, holds⟩, rfl⟩
  | cons c rest ih =>
    cases marks with
    | nil => simp [Marked, keep]
    | cons mark more =>
      simp only [Marked, keep, Bool.and_eq_true, ih]
      constructor
      · rintro (⟨⟨isMarked, holds⟩, rfl⟩ | ⟨marked, holds⟩)
        · exact ⟨.inl ⟨isMarked, rfl⟩, holds⟩
        · exact ⟨.inr marked, holds⟩
      · rintro ⟨⟨isMarked, rfl⟩ | marked, holds⟩
        · exact .inl ⟨⟨isMarked, holds⟩, rfl⟩
        · exact .inr ⟨marked, holds⟩

/-- The marks move over any number of characters of the set. -/
theorem marked_spread (covers : Covers line marks) :
    Marked before line (marks.spread s carried line) b ↔
      (carried = true ∧ Spans (.star (.char s)) ⟨before, line⟩ b) ∨
        ∃ a, Marked before line marks a ∧ Spans (.star (.char s)) a b := by
  induction line generalizing before marks carried with
  | nil =>
    cases marks with
    | nil => cases covers
    | cons mark more =>
      simp only [Marked, spread, Bool.or_eq_true, Spans.star_char_nil_iff]
      constructor
      · rintro ⟨isMarked | isCarried, rfl⟩
        · exact .inr ⟨_, ⟨isMarked, rfl⟩, .starNil _⟩
        · exact .inl ⟨isCarried, rfl⟩
      · rintro (⟨isCarried, rfl⟩ | ⟨a, ⟨isMarked, rfl⟩, spans⟩)
        · exact ⟨.inr isCarried, rfl⟩
        · exact ⟨.inl isMarked, Spans.star_char_nil_iff.mp spans⟩
  | cons c rest ih =>
    cases marks with
    | nil => cases covers
    | cons mark more =>
      have coversRest : Covers rest more := Nat.succ.inj covers
      simp only [Marked, spread, ih coversRest, Bool.or_eq_true, Bool.and_eq_true,
        Spans.star_char_cons_iff]
      constructor
      · rintro (⟨isMarked | isCarried, rfl⟩ | ⟨⟨isMarked | isCarried, member⟩, spans⟩ |
          ⟨a, marked, spans⟩)
        · exact .inr ⟨_, .inl ⟨isMarked, rfl⟩, .starNil _⟩
        · exact .inl ⟨isCarried, .inl rfl⟩
        · exact .inr ⟨_, .inl ⟨isMarked, rfl⟩, .starCons (.char member) spans⟩
        · exact .inl ⟨isCarried, .inr ⟨member, spans⟩⟩
        · exact .inr ⟨a, .inr marked, spans⟩
      · rintro (⟨isCarried, rfl | ⟨member, spans⟩⟩ | ⟨a, ⟨isMarked, rfl⟩ | marked, spans⟩)
        · exact .inl ⟨.inr isCarried, rfl⟩
        · exact .inr (.inl ⟨⟨.inr isCarried, member⟩, spans⟩)
        · rcases Spans.star_char_cons_iff.mp spans with rfl | ⟨member, spans⟩
          · exact .inl ⟨.inl isMarked, rfl⟩
          · exact .inr (.inl ⟨⟨.inl isMarked, member⟩, spans⟩)
        · exact .inr (.inr ⟨a, marked, spans⟩)

/-- Marks in one of two ways. -/
theorem marked_either (covers : Covers line known) (coversToo : Covers line fresh) :
    Marked before line (known.either fresh) b ↔
      Marked before line known b ∨ Marked before line fresh b := by
  induction line generalizing before known fresh with
  | nil =>
    obtain ⟨x, more, rfl⟩ := List.exists_cons_of_length_eq_add_one covers
    obtain ⟨y, others, rfl⟩ := List.exists_cons_of_length_eq_add_one coversToo
    simp only [either, List.zipWith_cons_cons, Marked, Bool.or_eq_true]
    tauto
  | cons c rest ih =>
    obtain ⟨x, more, rfl⟩ := List.exists_cons_of_length_eq_add_one covers
    obtain ⟨y, others, rfl⟩ := List.exists_cons_of_length_eq_add_one coversToo
    have tail : Marked (Option.some c) rest (Marks.either more others) b ↔ _ :=
      ih (Nat.succ.inj covers) (Nat.succ.inj coversToo)
    unfold either at tail
    simp only [either, List.zipWith_cons_cons, Marked, Bool.or_eq_true, tail]
    tauto

/-- Marks in the first way only. -/
theorem marked_without (covers : Covers line known) (coversToo : Covers line fresh) :
    Marked before line (known.without fresh) b ↔
      Marked before line known b ∧ ¬ Marked before line fresh b := by
  induction line generalizing before known fresh with
  | nil =>
    obtain ⟨x, more, rfl⟩ := List.exists_cons_of_length_eq_add_one covers
    obtain ⟨y, others, rfl⟩ := List.exists_cons_of_length_eq_add_one coversToo
    simp only [without, List.zipWith_cons_cons, Marked, Bool.and_eq_true, Bool.not_eq_true']
    cases y <;> simp
  | cons c rest ih =>
    obtain ⟨x, more, rfl⟩ := List.exists_cons_of_length_eq_add_one covers
    obtain ⟨y, others, rfl⟩ := List.exists_cons_of_length_eq_add_one coversToo
    have tail : Marked (Option.some c) rest (Marks.without more others) b ↔ _ :=
      ih (Nat.succ.inj covers) (Nat.succ.inj coversToo)
    unfold without at tail
    simp only [without, List.zipWith_cons_cons, Marked, Bool.and_eq_true, Bool.not_eq_true', tail,
      not_or]
    -- The first place has one mark only, so the marks behind it do not interfere.
    constructor
    · rintro (⟨⟨isMarked, unmarked⟩, rfl⟩ | ⟨marked, notFresh⟩)
      · exact ⟨.inl ⟨isMarked, rfl⟩, fun both => Bool.eq_false_iff.mp unmarked both.1,
          not_marked_first⟩
      · refine ⟨.inr marked, fun both => ?_, notFresh⟩
        rw [both.2] at marked
        exact not_marked_first marked
    · rintro ⟨⟨isMarked, rfl⟩ | marked, notHere, notFresh⟩
      · exact .inl ⟨⟨isMarked, Bool.eq_false_iff.mpr fun marked => notHere ⟨marked, rfl⟩⟩, rfl⟩
      · exact .inr ⟨marked, notFresh⟩

/-- Some place is marked when one of the marks is set. -/
theorem some_iff_marked (before : Option Char) (covers : Covers line marks) :
    marks.some = true ↔ ∃ b, Marked before line marks b := by
  unfold some
  rw [List.any_eq_true]
  induction line generalizing before marks with
  | nil =>
    obtain ⟨mark, more, rfl⟩ := List.exists_cons_of_length_eq_add_one covers
    obtain rfl : more = [] := List.length_eq_zero_iff.mp (Nat.succ.inj covers)
    simp [Marked]
  | cons c rest ih =>
    obtain ⟨mark, more, rfl⟩ := List.exists_cons_of_length_eq_add_one covers
    have tail := ih (Option.some c) (Nat.succ.inj covers)
    simp only [id_eq, Marked, List.mem_cons, exists_or, or_and_right] at tail ⊢
    rw [tail]
    simp

/-- Marks at every place. -/
theorem marked_all_iff {n : Nat} (enough : line.length < n) :
    Marked before line (List.replicate n true) b ↔ b ∈ allFrom before line := by
  refine ⟨Marked.mem_allFrom, fun place => ?_⟩
  induction line generalizing before n with
  | nil =>
    obtain ⟨m, rfl⟩ := Nat.exists_eq_succ_of_ne_zero (Nat.ne_of_gt enough)
    exact ⟨rfl, List.mem_singleton.mp place⟩
  | cons c rest ih =>
    obtain ⟨m, rfl⟩ := Nat.exists_eq_succ_of_ne_zero (Nat.ne_of_gt (Nat.zero_lt_of_lt enough))
    rcases List.mem_cons.mp place with rfl | behind
    · exact .inl ⟨rfl, rfl⟩
    · exact .inr (ih (Nat.lt_of_succ_lt_succ enough) behind)

/-! ## The operations keep a mark for every place -/

/-- Marks that are moved on are as many as there are characters. -/
theorem length_advance (line : List Char) (marks : Marks) (covers : Covers line marks) :
    (marks.advance s line).length = line.length := by
  induction line generalizing marks with
  | nil => rfl
  | cons c rest ih =>
    obtain ⟨mark, more, rfl⟩ := List.exists_cons_of_length_eq_add_one covers
    exact congrArg (· + 1) (ih more (Nat.succ.inj covers))

/-- Keeping the marks at edges leaves one for every place. -/
theorem covers_keep (covers : Covers line marks) : Covers line (marks.keep e before line) := by
  induction line generalizing before marks with
  | nil =>
    obtain ⟨mark, more, rfl⟩ := List.exists_cons_of_length_eq_add_one covers
    rfl
  | cons c rest ih =>
    obtain ⟨mark, more, rfl⟩ := List.exists_cons_of_length_eq_add_one covers
    exact congrArg (· + 1) (ih (Nat.succ.inj covers))

/-- Spreading marks over characters of a set leaves one for every place. -/
theorem covers_spread (covers : Covers line marks) : Covers line (marks.spread s carried line) := by
  induction line generalizing carried marks with
  | nil =>
    obtain ⟨mark, more, rfl⟩ := List.exists_cons_of_length_eq_add_one covers
    rfl
  | cons c rest ih =>
    obtain ⟨mark, more, rfl⟩ := List.exists_cons_of_length_eq_add_one covers
    exact congrArg (· + 1) (ih (Nat.succ.inj covers))

/-- The marks of two searches together are one for every place. -/
theorem covers_either (covers : Covers line known) (coversToo : Covers line fresh) :
    Covers line (known.either fresh) := by
  unfold Covers either
  rw [List.length_zipWith, covers, coversToo, Nat.min_self]

/-- The marks of one search without those of another are one for every place. -/
theorem covers_without (covers : Covers line known) (coversToo : Covers line fresh) :
    Covers line (known.without fresh) := by
  unfold Covers without
  rw [List.length_zipWith, covers, coversToo, Nat.min_self]

/-! ## Steps until nothing is marked anew -/

/-- A step of marks that follows a relation between places. -/
structure Follows (line : List Char) (step : Marks → Marks) (r : Place → Place → Prop) : Prop where
  covers : ∀ {marks}, Covers line marks → Covers line (step marks)
  marked_iff : ∀ {marks b}, Covers line marks →
    (Marked none line (step marks) b ↔ ∃ a, Marked none line marks a ∧ r a b)

/-- What holds while steps are taken: what a step leads to from a place without a fresh mark is
known, and the steps that are left suffice for the places that are not. -/
structure Progresses (line : List Char) (r : Place → Place → Prop) (fuel : Nat)
    (known fresh : Marks) : Prop where
  coversKnown : Covers line known
  coversFresh : Covers line fresh
  subset : ∀ a, Marked none line fresh a → Marked none line known a
  closed : ∀ a b, Marked none line known a → ¬ Marked none line fresh a → r a b →
    Marked none line known b
  enough : line.length + 1 ≤ fuel + known.count true

variable {step : Marks → Marks} {r : Place → Place → Prop} {fuel : Nat} {next : Marks}

/-- Marks that are new add to those that are known. -/
theorem count_either_without (same : known.length = next.length) :
    (known.either (next.without known)).count true =
      known.count true + (next.without known).count true := by
  induction known generalizing next with
  | nil =>
    obtain rfl : next = [] := List.length_eq_zero_iff.mp same.symm
    rfl
  | cons x more ih =>
    obtain ⟨y, others, rfl⟩ := List.exists_cons_of_length_eq_add_one same.symm
    have tail := ih (Nat.succ.inj same)
    unfold either without at tail ⊢
    simp only [List.zipWith_cons_cons, List.count_cons, tail]
    cases x <;> cases y <;> simp <;> omega

/-- So there are more marks when some are new. -/
theorem count_lt_either (same : known.length = next.length)
    (new : (next.without known).some = true) :
    known.count true < (known.either (next.without known)).count true := by
  obtain ⟨mark, member, isSet⟩ := List.any_eq_true.mp new
  have positive : 0 < (next.without known).count true := List.count_pos_iff.mpr (isSet ▸ member)
  have total := count_either_without same
  omega

/-- Where every place is marked, every place that steps lead to is. -/
theorem marked_of_full (follows : Follows line step r) (covers : Covers line known)
    (full : line.length + 1 ≤ known.count true) (marked : Marked none line known a)
    (reached : Relation.ReflTransGen r a b) : Marked none line known b := by
  have everywhere : known = List.replicate (line.length + 1) true := by
    have all : known.count true = known.length :=
      Nat.le_antisymm List.count_le_length (covers ▸ full)
    rw [List.eq_replicate_iff]
    exact ⟨covers, fun mark member => (List.count_eq_length.mp all mark member).symm⟩
  induction reached with
  | refl => exact marked
  | @tail c d _ stepped ih =>
    have next := (follows.marked_iff covers).mpr ⟨c, ih, stepped⟩
    rw [everywhere, marked_all_iff (Nat.lt_succ_self _)]
    exact next.mem_allFrom

/-- When a step leads to nothing new, everything that steps lead to is known. -/
theorem Progresses.marked_of_reached (progresses : Progresses line r fuel known fresh)
    (follows : Follows line step r) (old : ((step fresh).without known).some = false)
    (marked : Marked none line known a) (reached : Relation.ReflTransGen r a b) :
    Marked none line known b := by
  have covers := follows.covers progresses.coversFresh
  induction reached with
  | refl => exact marked
  | @tail c d _ stepped ih =>
    by_cases isFresh : Marked none line fresh c
    · by_contra unknown
      refine Bool.eq_false_iff.mp old ((some_iff_marked none
        (covers_without covers progresses.coversKnown)).mpr ⟨d, ?_⟩)
      rw [marked_without covers progresses.coversKnown,
        follows.marked_iff progresses.coversFresh]
      exact ⟨⟨c, isFresh, stepped⟩, unknown⟩
    · exact progresses.closed c d ih isFresh stepped

/-- When a step leads to something new, it becomes known. -/
theorem Progresses.widen (progresses : Progresses line r (fuel + 1) known fresh)
    (follows : Follows line step r) (new : ((step fresh).without known).some = true) :
    Progresses line r fuel (known.either ((step fresh).without known))
      ((step fresh).without known) := by
  have covers := follows.covers progresses.coversFresh
  have coversNext := covers_without covers progresses.coversKnown
  refine ⟨covers_either progresses.coversKnown coversNext, coversNext, fun a marked => ?_,
    fun a b marked notNext stepped => ?_, ?_⟩
  · exact (marked_either progresses.coversKnown coversNext).mpr (.inr marked)
  · rw [marked_either progresses.coversKnown coversNext] at marked ⊢
    have wasKnown := marked.resolve_right notNext
    by_cases isFresh : Marked none line fresh a
    · rw [marked_without covers progresses.coversKnown,
        follows.marked_iff progresses.coversFresh]
      by_cases isKnown : Marked none line known b
      · exact .inl isKnown
      · exact .inr ⟨⟨a, isFresh, stepped⟩, isKnown⟩
    · exact .inl (progresses.closed a b wasKnown isFresh stepped)
  · have more := count_lt_either (progresses.coversKnown.trans covers.symm) new
    have enough := progresses.enough
    omega

/-- Taking steps until nothing is marked anew marks all that steps lead to. -/
theorem Progresses.marked_closure (progresses : Progresses line r fuel known fresh)
    (follows : Follows line step r) :
    Covers line (closure step fuel known fresh) ∧ ∀ b,
      (Marked none line (closure step fuel known fresh) b ↔
        ∃ a, Marked none line known a ∧ Relation.ReflTransGen r a b) := by
  induction fuel generalizing known fresh with
  | zero =>
    refine ⟨progresses.coversKnown, fun b => ⟨fun marked => ⟨b, marked, .refl⟩, ?_⟩⟩
    rintro ⟨a, marked, reached⟩
    have full : line.length + 1 ≤ known.count true := by
      have enough := progresses.enough
      omega
    exact marked_of_full follows progresses.coversKnown full marked reached
  | succ fuel ih =>
    rw [closure]
    cases new : ((step fresh).without known).some with
    | false =>
      rw [if_neg Bool.false_ne_true]
      refine ⟨progresses.coversKnown, fun b => ⟨fun marked => ⟨b, marked, .refl⟩, ?_⟩⟩
      rintro ⟨a, marked, reached⟩
      exact progresses.marked_of_reached follows new marked reached
    | true =>
      have covers := follows.covers progresses.coversFresh
      have coversNext := covers_without covers progresses.coversKnown
      obtain ⟨coversAll, marked_iff⟩ := ih (progresses.widen follows new)
      rw [if_pos rfl]
      refine ⟨coversAll, fun b => (marked_iff b).trans ⟨?_, ?_⟩⟩
      · rintro ⟨a, marked, reached⟩
        rw [marked_either progresses.coversKnown coversNext] at marked
        rcases marked with isKnown | isNew
        · exact ⟨a, isKnown, reached⟩
        · rw [marked_without covers progresses.coversKnown,
            follows.marked_iff progresses.coversFresh] at isNew
          obtain ⟨⟨c, isFresh, stepped⟩, _⟩ := isNew
          exact ⟨c, progresses.subset c isFresh, .head stepped reached⟩
      · rintro ⟨a, marked, reached⟩
        exact ⟨a, (marked_either progresses.coversKnown coversNext).mpr (.inl marked), reached⟩

/-- At the start, the marks are known and all of them are fresh. -/
theorem progresses_start (covers : Covers line marks) :
    Progresses line r (line.length + 1) marks marks :=
  ⟨covers, covers, fun _ marked => marked, fun _ _ marked unmarked => absurd marked unmarked,
    Nat.le_add_right _ _⟩

end Marks

namespace Pattern

open Marks (Marked Covers Follows)

variable {line : List Char} {marks : Marks} {p : Pattern} {a b : Place}

/-! ## The whole search -/

/-- A search that follows the stretches of a pattern can be repeated. -/
theorem follows_closure (follows : Follows line (p.reach line) (Spans p)) :
    Follows line (fun marks => Marks.closure (p.reach line) (line.length + 1) marks marks)
      (Spans (.star p)) := by
  refine ⟨fun covers => ((Marks.progresses_start covers).marked_closure follows).1,
    fun covers => ?_⟩
  rw [((Marks.progresses_start covers).marked_closure follows).2]
  simp only [Spans.star_iff]

/-- The places that a search reaches are those where matching stretches from marked places end. -/
theorem follows_reach (p : Pattern) (line : List Char) : Follows line (p.reach line) (Spans p) := by
  induction p with
  | empty =>
    refine ⟨id, fun covers => ⟨fun marked => ⟨_, marked, .empty _⟩, ?_⟩⟩
    rintro ⟨a, marked, spans⟩
    cases spans
    exact marked
  | char s =>
    refine ⟨fun covers => ?_, fun covers => ?_⟩
    · rw [reach, Covers, List.length_cons, Marks.length_advance line _ covers]
    · rw [reach, Marks.marked_advance]
      exact or_iff_right fun first => Bool.false_ne_true first.1
  | edge e =>
    refine ⟨fun covers => Marks.covers_keep covers, fun covers => ?_⟩
    rw [reach, Marks.marked_keep]
    constructor
    · rintro ⟨marked, holds⟩
      exact ⟨_, marked, .edge holds⟩
    · rintro ⟨a, marked, spans⟩
      cases spans with
      | edge holds => exact ⟨marked, holds⟩
  | seq p q ihp ihq =>
    have unfolded (marks : Marks) : (seq p q).reach line marks =
        if (p.reach line marks).some then q.reach line (p.reach line marks)
        else p.reach line marks := rfl
    refine ⟨fun {marks} covers => ?_, fun {marks b} covers => ?_⟩
    · rw [unfolded]
      split
      · exact ihq.covers (ihp.covers covers)
      · exact ihp.covers covers
    · have middle := ihp.covers covers
      rw [unfolded]
      cases found : (p.reach line marks).some with
      | true =>
        rw [if_pos rfl, ihq.marked_iff middle]
        simp only [ihp.marked_iff covers]
        constructor
        · rintro ⟨c, ⟨a, marked, left⟩, right⟩
          exact ⟨a, marked, .seq left right⟩
        · rintro ⟨a, marked, spans⟩
          cases spans with
          | seq left right => exact ⟨_, ⟨a, marked, left⟩, right⟩
      | false =>
        have nowhere (c : Place) : ¬ Marked none line (p.reach line marks) c := fun marked =>
          Bool.eq_false_iff.mp found ((Marks.some_iff_marked none middle).mpr ⟨c, marked⟩)
        rw [if_neg Bool.false_ne_true]
        refine ⟨fun marked => absurd marked (nowhere b), ?_⟩
        rintro ⟨a, marked, spans⟩
        cases spans with
        | seq left right => exact absurd ((ihp.marked_iff covers).mpr ⟨a, marked, left⟩) (nowhere _)
  | alt p q ihp ihq =>
    refine ⟨fun covers => Marks.covers_either (ihp.covers covers) (ihq.covers covers),
      fun covers => ?_⟩
    rw [reach, Marks.marked_either (ihp.covers covers) (ihq.covers covers),
      ihp.marked_iff covers, ihq.marked_iff covers]
    constructor
    · rintro (⟨a, marked, spans⟩ | ⟨a, marked, spans⟩)
      · exact ⟨a, marked, .altLeft spans⟩
      · exact ⟨a, marked, .altRight spans⟩
    · rintro ⟨a, marked, spans⟩
      cases spans with
      | altLeft spans => exact .inl ⟨a, marked, spans⟩
      | altRight spans => exact .inr ⟨a, marked, spans⟩
  | star p ih =>
    cases p with
    | char s =>
      refine ⟨fun covers => Marks.covers_spread covers, fun covers => ?_⟩
      rw [reach, Marks.marked_spread covers]
      exact or_iff_right fun carried => Bool.false_ne_true carried.1
    | _ => exact follows_closure ih

/-- A pattern is found in a line exactly when a stretch of the line matches. -/
theorem matchesChars_iff : p.matchesChars line = true ↔ p.Occurs line := by
  have covers : Covers line (Marks.all line) := List.length_replicate
  have follows := p.follows_reach line
  have everywhere (a : Place) : Marked none line (Marks.all line) a ↔ a ∈ Place.all line :=
    Marks.marked_all_iff (Nat.lt_succ_self _)
  unfold matchesChars Occurs
  rw [Marks.some_iff_marked none (follows.covers covers)]
  constructor
  · rintro ⟨b, marked⟩
    obtain ⟨a, place, spans⟩ := (follows.marked_iff covers).mp marked
    exact ⟨a, (everywhere a).mp place, b, spans⟩
  · rintro ⟨a, place, b, spans⟩
    exact ⟨b, (follows.marked_iff covers).mpr ⟨a, (everywhere a).mpr place, spans⟩⟩

end Pattern
end QualityGates
