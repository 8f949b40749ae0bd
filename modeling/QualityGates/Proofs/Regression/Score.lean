import QualityGates.Proofs.Json.Members
import QualityGates.Proofs.Listing
import QualityGates.Regression.Score

/-!
# Scores that were recorded and scores that were measured

A baseline keeps the score that is written last for each name. Results keep the score of the last
entry of a benchmark that has a finite one; entries without one are as good as absent.
-/

namespace QualityGates

/-! ## Results -/

/-- An entry of current results that gives a benchmark a finite score. -/
def ScoredAs (entry : Json) (name : String) (x : Float) : Prop :=
  entry.member? "benchmark" = some (.string name) ∧
    ∃ metric score, entry.member? "primaryMetric" = some metric ∧
      metric.member? "score" = some score ∧ score? score = some x ∧ x.isFinite = true

/-- The score of the last entry that gives a benchmark a finite one. -/
def LastScore (entries : List Json) (name : String) (x : Float) : Prop :=
  ∃ before entry after, entries = before ++ entry :: after ∧ ScoredAs entry name x ∧
    ∀ later ∈ after, ∀ y, ¬ ScoredAs later name y

/-- No entry gives a benchmark a finite score. -/
def Unscored (entries : List Json) (name : String) : Prop :=
  ∀ entry ∈ entries, ∀ x, ¬ ScoredAs entry name x

/-- The name of a benchmark is a string. -/
theorem string?_eq_some_iff {value : Json} {name : String} :
    value.string? = some name ↔ value = .string name := by
  cases value <;> simp [Json.string?]

/-- The name and the score of an entry are those in its members, unless the score is null. -/
theorem nameAndScore_iff {entry score : Json} {name : String} :
    Results.nameAndScore entry = some (name, score) ↔
      entry.member? "benchmark" = some (.string name) ∧
        (∃ metric, entry.member? "primaryMetric" = some metric ∧
          metric.member? "score" = some score) ∧ score.isNull = false := by
  constructor
  · intro named
    unfold Results.nameAndScore at named
    split at named
    · rename_i name' score' isNamed isScored
      obtain ⟨value, there, isString⟩ := Option.bind_eq_some_iff.mp isNamed
      rw [string?_eq_some_iff] at isString
      cases null : score'.isNull with
      | true =>
        rw [null, if_pos rfl] at named
        cases named
      | false =>
        rw [null, if_neg Bool.false_ne_true] at named
        cases named
        exact ⟨isString ▸ there, Option.bind_eq_some_iff.mp isScored, null⟩
    · cases named
  · rintro ⟨named, ⟨metric, measured, inside⟩, present⟩
    unfold Results.nameAndScore
    rw [named, measured]
    dsimp only [Option.bind_some, Json.string?]
    rw [inside]
    dsimp only
    rw [present, if_neg Bool.false_ne_true]

/-- What stands for a score is not null. -/
theorem isNull_of_score? {value : Json} {x : Float} (scored : score? value = some x) :
    value.isNull = false := by
  cases value with
  | null => cases scored
  | _ => rfl

/-- An entry is taken exactly when it gives a benchmark a finite score. -/
theorem ofEntry_iff {entry : Json} {name : String} {x : Float} :
    Results.ofEntry entry = .ok (some (name, x)) ↔ ScoredAs entry name x := by
  constructor
  · intro taken
    unfold Results.ofEntry at taken
    split at taken
    · cases taken
    · rename_i found score named
      split at taken
      · cases taken
      · rename_i y scored
        by_cases finite : y.isFinite = true
        · rw [if_pos finite] at taken
          cases taken
          obtain ⟨there, ⟨metric, measured, inside⟩, _⟩ := nameAndScore_iff.mp named
          exact ⟨there, metric, score, measured, inside, scored, finite⟩
        · rw [if_neg finite] at taken
          cases taken
  · rintro ⟨named, metric, score, measured, inside, scored, finite⟩
    have pair : Results.nameAndScore entry = some (name, score) :=
      nameAndScore_iff.mpr ⟨named, ⟨metric, measured, inside⟩, isNull_of_score? scored⟩
    unfold Results.ofEntry
    rw [pair]
    dsimp only
    rw [scored]
    dsimp only
    rw [if_pos finite]

/-- An entry that is skipped gives no benchmark a finite score. -/
theorem not_scoredAs_of_skipped {entry : Json} (skipped : Results.ofEntry entry = .ok none)
    (name : String) (x : Float) : ¬ ScoredAs entry name x := by
  intro scored
  rw [← ofEntry_iff, skipped] at scored
  cases scored

/-- An entry gives one score to one benchmark. -/
theorem ScoredAs.unique {entry : Json} {name name' : String} {x x' : Float}
    (scored : ScoredAs entry name x) (scored' : ScoredAs entry name' x') :
    name = name' ∧ x = x' := by
  rw [← ofEntry_iff] at scored scored'
  rw [scored] at scored'
  cases scored'
  exact ⟨rfl, rfl⟩

/-- The last score is behind the first entry, or it is that entry's when there is none behind. -/
theorem lastScore_cons {entry : Json} {entries : List Json} {name : String} {x : Float} :
    LastScore (entry :: entries) name x ↔
      LastScore entries name x ∨ Unscored entries name ∧ ScoredAs entry name x := by
  constructor
  · rintro ⟨before, last, after, split, scored, silent⟩
    cases before with
    | nil =>
      rw [List.nil_append, List.cons.injEq] at split
      obtain ⟨rfl, rfl⟩ := split
      exact .inr ⟨silent, scored⟩
    | cons first before =>
      rw [List.cons_append, List.cons.injEq] at split
      exact .inl ⟨before, last, after, split.2, scored, silent⟩
  · rintro (⟨before, last, after, rfl, scored, silent⟩ | ⟨silent, scored⟩)
    · exact ⟨entry :: before, last, after, rfl, scored, silent⟩
    · exact ⟨[], entry, entries, rfl, scored, silent⟩

/-- A last score is the score of some entry. -/
theorem LastScore.not_unscored {entries : List Json} {name : String} {x : Float}
    (last : LastScore entries name x) : ¬ Unscored entries name := by
  obtain ⟨before, entry, after, rfl, scored, _⟩ := last
  exact fun silent => silent entry (List.mem_append_right before List.mem_cons_self) x scored

/-- If some entry has a score, one of them is the last one. -/
theorem exists_lastScore {entries : List Json} {name : String}
    (some : ∃ entry ∈ entries, ∃ x, ScoredAs entry name x) : ∃ x, LastScore entries name x := by
  induction entries with
  | nil =>
    obtain ⟨entry, member, _⟩ := some
    exact absurd member List.not_mem_nil
  | cons first entries ih =>
    by_cases later : ∃ entry ∈ entries, ∃ x, ScoredAs entry name x
    · obtain ⟨x, last⟩ := ih later
      exact ⟨x, lastScore_cons.mpr (.inl last)⟩
    · obtain ⟨entry, member, x, scored⟩ := some
      rcases List.mem_cons.mp member with rfl | member
      · exact ⟨x, lastScore_cons.mpr (.inr ⟨fun other otherIn y scored' =>
          later ⟨other, otherIn, y, scored'⟩, scored⟩)⟩
      · exact absurd ⟨entry, member, x, scored⟩ later

/-- There is at most one last score. -/
theorem LastScore.unique {entries : List Json} {name : String} {x y : Float}
    (first : LastScore entries name x) (second : LastScore entries name y) : x = y := by
  induction entries with
  | nil =>
    obtain ⟨before, entry, after, split, _⟩ := first
    simp at split
  | cons entry entries ih =>
    rcases lastScore_cons.mp first with first | ⟨silent, scored⟩
    · rcases lastScore_cons.mp second with second | ⟨silent, _⟩
      · exact ih first second
      · exact absurd silent first.not_unscored
    · rcases lastScore_cons.mp second with second | ⟨_, scored'⟩
      · exact absurd silent second.not_unscored
      · exact (scored.unique scored').2

/-- A benchmark has no score when neither the first entry nor one behind it gives it one. -/
theorem unscored_cons {entry : Json} {entries : List Json} {name : String} :
    Unscored (entry :: entries) name ↔
      (∀ x, ¬ ScoredAs entry name x) ∧ Unscored entries name :=
  List.forall_mem_cons

/-- Taking an entry gives its benchmark its score and leaves the other benchmarks alone. -/
theorem get?_take {entry : Json} {found : Option (String × Float)} (r : Results)
    (read : Results.ofEntry entry = .ok found) (name : String) (x : Float) :
    (r.take found).get? name = some x ↔
      ScoredAs entry name x ∨ (∀ y, ¬ ScoredAs entry name y) ∧ r.get? name = some x := by
  cases found with
  | none =>
    have skipped := not_scoredAs_of_skipped read name
    show r.get? name = some x ↔ _
    exact ⟨fun known => .inr ⟨skipped, known⟩,
      fun either => either.elim (fun scored => absurd scored (skipped x)) And.right⟩
  | some pair =>
    obtain ⟨measured, y⟩ := pair
    have scored := ofEntry_iff.mp read
    show (Json.setMember measured y r.scores).lookup name = some x ↔ _
    rw [Json.lookup_setMember]
    by_cases same : name = measured
    · rw [if_pos same, same]
      constructor
      · intro known
        obtain rfl := Option.some.inj known
        exact .inl scored
      · rintro (scored' | ⟨silent, _⟩)
        · exact congrArg some (scored.unique scored').2
        · exact absurd scored (silent y)
    · rw [if_neg same]
      have silent : ∀ z, ¬ ScoredAs entry name z := fun z scored' =>
        same (scored'.unique scored).1
      exact ⟨fun known => .inr ⟨silent, known⟩,
        fun either => either.elim (fun scored' => absurd scored' (silent x)) And.right⟩

/-- Taking entries leaves a benchmark with its last score, or with what was known before if none of
the entries has one. -/
theorem get?_takeAll {entries : List Json} {r done : Results}
    (taken : r.takeAll entries = .ok done) (name : String) (x : Float) :
    done.get? name = some x ↔
      LastScore entries name x ∨ Unscored entries name ∧ r.get? name = some x := by
  induction entries generalizing r with
  | nil =>
    rw [Results.takeAll] at taken
    cases taken
    constructor
    · exact fun known => .inr ⟨fun entry member => absurd member List.not_mem_nil, known⟩
    · rintro (last | ⟨_, known⟩)
      · exact absurd (fun entry member => absurd member List.not_mem_nil) last.not_unscored
      · exact known
  | cons entry entries ih =>
    rw [Results.takeAll] at taken
    split at taken
    · cases taken
    · rename_i found read
      rw [ih taken, get?_take r read, lastScore_cons, unscored_cons]
      constructor
      · rintro (last | ⟨silent, scored | ⟨skipped, known⟩⟩)
        · exact .inl (.inl last)
        · exact .inl (.inr ⟨silent, scored⟩)
        · exact .inr ⟨⟨skipped, silent⟩, known⟩
      · rintro ((last | ⟨silent, scored⟩) | ⟨⟨skipped, silent⟩, known⟩)
        · exact .inl last
        · exact .inr ⟨silent, .inl scored⟩
        · exact .inr ⟨silent, .inr ⟨skipped, known⟩⟩

/-- Results hold the last score of every benchmark. -/
theorem get?_eq_some_iff {entries : List Json} {r : Results}
    (read : Results.ofJson (.array entries) = .ok r) (name : String) (x : Float) :
    r.get? name = some x ↔ LastScore entries name x := by
  rw [get?_takeAll (r := {}) read]
  exact ⟨fun either => either.elim id fun known => (nomatch known.2), .inl⟩

/-- Results hold nothing for a benchmark without a score. -/
theorem get?_eq_none_iff {entries : List Json} {r : Results}
    (read : Results.ofJson (.array entries) = .ok r) (name : String) :
    r.get? name = none ↔ Unscored entries name := by
  rw [Option.eq_none_iff_forall_ne_some]
  constructor
  · intro absent entry member x scored
    obtain ⟨y, last⟩ := exists_lastScore ⟨entry, member, x, scored⟩
    exact absent y ((get?_eq_some_iff read name y).mpr last)
  · exact fun silent x known => ((get?_eq_some_iff read name x).mp known).not_unscored silent

/-! ## The baseline -/

/-- The score that a baseline records for a name: the one that is written last. -/
def RecordedScore (written : List (String × Json)) (name : String) (b : Float) : Prop :=
  ∃ value, Json.LastMember written name value ∧ score? value = some b

/-- The entries of a baseline are the members of an object, each with its score. -/
theorem ofMembers_ok {members : List (String × Json)} {entries : List (String × Float)}
    (read : Baseline.ofMembers members = .ok entries) :
    List.Forall₂ (fun member entry => member.1 = entry.1 ∧ score? member.2 = some entry.2)
      members entries := by
  induction members generalizing entries with
  | nil => cases read; exact .nil
  | cons member members ih =>
    obtain ⟨name, value⟩ := member
    rw [Baseline.ofMembers] at read
    split at read
    · cases read
    · rename_i x scored
      split at read
      · cases read
      · rename_i rest more
        cases read
        exact .cons ⟨rfl, scored⟩ (ih more)

/-- A baseline lists every name where it is first written, with the score that is written last. -/
theorem baseline_entries {written : List (String × Json)} {b : Baseline}
    (read : Baseline.ofJson (.object (Json.mergeMembers written)) = .ok b) :
    b.entries.map Prod.fst = (written.map Prod.fst).eraseDups ∧
      ∀ entry ∈ b.entries, RecordedScore written entry.1 entry.2 := by
  obtain ⟨entries, found, rfl⟩ := Except.map_eq_ok_iff.mp read
  have paired := ofMembers_ok found
  constructor
  · rw [← Json.mergeMembers_names, ← List.forall₂_eq_eq_eq, List.forall₂_map_left_iff,
      List.forall₂_map_right_iff]
    exact (paired.imp fun member entry h => h.1.symm).flip
  · intro entry entryIn
    obtain ⟨member, memberIn, sameName, scored⟩ :=
      exists_mem_of_forall₂ paired entryIn
    refine ⟨member.2, ?_, scored⟩
    rw [← Json.lookup_reverse_iff, ← Json.lookup_mergeMembers, ← sameName]
    exact lookup_of_mem (Json.mergeMembers_nodup written) memberIn

end QualityGates
