import Mathlib.Data.Set.Card
import QualityGates.Proofs.First
import QualityGates.Proofs.Regression.Score

/-!
# Every entry is accounted for

An entry of current results either gives a benchmark a finite score or is skipped, unless it names a
benchmark and has a score that is no number: then the results are refused, for the first such entry.
What is kept and what is skipped add up to the entries, and every name is kept once.
-/

namespace QualityGates

variable {entry value score : Json} {entries : List Json} {name : String} {fault : ScoreFault}
  {r done : Results}

/-! ## What an entry is -/

/-- A JSON value that is a number, or a text that holds a float between blanks. -/
inductive IsNumeric : Json → Prop where
  | number (n : JsonNumber) : IsNumeric (.number n)
  | text {s : String} {x : Float} (reads : Number.readFloat (Text.trim s.toList) = some x) :
    IsNumeric (.string s)

/-- An entry that counts gives a benchmark a finite score. -/
def Counts (entry : Json) : Prop :=
  ∃ name x, ScoredAs entry name x

/-- An entry that names a benchmark but has something else than a number for its score. -/
structure Misstates (entry : Json) (name : String) (score : Json) : Prop where
  named : entry.member? "benchmark" = some (.string name)
  measured : ∃ metric, entry.member? "primaryMetric" = some metric ∧
    metric.member? "score" = some score
  present : score ≠ .null
  notNumeric : ¬ IsNumeric score

/-- An entry for which results are refused. -/
def IsRefused (entry : Json) : Prop :=
  ∃ name score, Misstates entry name score

/-- What stands for no score is not numeric. -/
theorem score?_eq_none_iff : score? value = none ↔ ¬ IsNumeric value := by
  constructor
  · intro none numeric
    cases numeric with
    | number n => cases none
    | text reads =>
      rw [score?, reads] at none
      cases none
  · intro notNumeric
    cases value with
    | number n => exact absurd (.number n) notNumeric
    | string s =>
      by_contra some
      obtain ⟨x, reads⟩ := Option.ne_none_iff_exists'.mp some
      exact notNumeric (.text reads)
    | _ => rfl

/-- Only null is null. -/
theorem isNull_eq_false_iff : value.isNull = false ↔ value ≠ .null := by
  cases value <;> simp [Json.isNull]

/-- Reading an entry fails exactly where its score is misstated. -/
theorem ofEntry_eq_error_iff : Results.ofEntry entry = .error fault ↔
    ∃ name score, Misstates entry name score ∧ fault = .notNumber name score := by
  constructor
  · intro failed
    unfold Results.ofEntry at failed
    split at failed
    · cases failed
    · rename_i name score found
      obtain ⟨named, measured, present⟩ := nameAndScore_iff.mp found
      split at failed
      · rename_i notNumeric
        cases failed
        exact ⟨name, score, ⟨named, measured, isNull_eq_false_iff.mp present,
          score?_eq_none_iff.mp notNumeric⟩, rfl⟩
      · cases failed
  · rintro ⟨name, score, ⟨named, measured, present, notNumeric⟩, rfl⟩
    have found : Results.nameAndScore entry = some (name, score) :=
      nameAndScore_iff.mpr ⟨named, measured, isNull_eq_false_iff.mpr present⟩
    unfold Results.ofEntry
    rw [found]
    dsimp only
    rw [score?_eq_none_iff.mpr notNumeric]

/-- An entry that is read counts or is skipped. -/
theorem ofEntry_cases {found : Option (String × Float)} (read : Results.ofEntry entry = .ok found) :
    (∃ name x, found = some (name, x) ∧ ScoredAs entry name x) ∨ found = none ∧ ¬ Counts entry := by
  cases found with
  | none => exact .inr ⟨rfl, fun ⟨name, x, scored⟩ => not_scoredAs_of_skipped read name x scored⟩
  | some pair => exact .inl ⟨pair.1, pair.2, rfl, ofEntry_iff.mp read⟩

/-! ## Refused results -/

/-- An entry is refused exactly when reading it fails. -/
theorem isRefused_iff : IsRefused entry ↔ ∃ fault, Results.ofEntry entry = .error fault := by
  constructor
  · intro ⟨name, score, misstated⟩
    exact ⟨_, ofEntry_eq_error_iff.mpr ⟨name, score, misstated, rfl⟩⟩
  · intro ⟨fault, failed⟩
    obtain ⟨name, score, misstated, _⟩ := ofEntry_eq_error_iff.mp failed
    exact ⟨name, score, misstated⟩

instance : DecidablePred IsRefused := fun entry =>
  match read : Results.ofEntry entry with
  | .error fault => .isTrue (isRefused_iff.mpr ⟨fault, read⟩)
  | .ok _ => .isFalse fun refused => by
    obtain ⟨fault, failed⟩ := isRefused_iff.mp refused
    cases read.symm.trans failed

/-- An entry that is not refused is read. -/
theorem not_isRefused_iff : ¬ IsRefused entry ↔ ∃ found, Results.ofEntry entry = .ok found := by
  rw [isRefused_iff, not_exists, Except.exists_ok_iff]

/-- Taking entries takes the first one and then the others. -/
theorem takeAll_cons : r.takeAll (entry :: entries) =
    (Results.ofEntry entry).bind fun found => (r.take found).takeAll entries := by
  rw [Results.takeAll]
  cases Results.ofEntry entry <;> rfl

/-- Taking entries fails exactly where one is refused, for the first of them. -/
theorem takeAll_eq_error_iff : r.takeAll entries = .error fault ↔
    ∃ entry name score, IsFirst IsRefused entries entry ∧ Misstates entry name score ∧
      fault = .notNumber name score := by
  induction entries generalizing r with
  | nil =>
    constructor
    · intro failed
      cases failed
    · rintro ⟨_, _, _, first, _⟩
      exact absurd first not_isFirst_nil
  | cons head entries ih =>
    rw [takeAll_cons, Except.bind_eq_error_iff]
    constructor
    · rintro (failed | ⟨found, read, later⟩)
      · obtain ⟨name, score, misstated, same⟩ := ofEntry_eq_error_iff.mp failed
        have refused : IsRefused head := ⟨name, score, misstated⟩
        exact ⟨head, name, score, isFirst_cons.mpr (.inl ⟨refused, rfl⟩), misstated, same⟩
      · obtain ⟨entry, name, score, first, misstated, same⟩ := ih.mp later
        have kept : ¬ IsRefused head := not_isRefused_iff.mpr ⟨found, read⟩
        exact ⟨entry, name, score, isFirst_cons.mpr (.inr ⟨kept, first⟩), misstated, same⟩
    · rintro ⟨entry, name, score, first, misstated, same⟩
      rcases isFirst_cons.mp first with ⟨_, rfl⟩ | ⟨kept, later⟩
      · exact .inl (ofEntry_eq_error_iff.mpr ⟨name, score, misstated, same⟩)
      · obtain ⟨found, read⟩ := not_isRefused_iff.mp kept
        exact .inr ⟨found, read, ih.mpr ⟨entry, name, score, later, misstated, same⟩⟩

/-! ## Kept and skipped entries -/

instance : DecidablePred Counts := fun entry =>
  match read : Results.ofEntry entry with
  | .ok (some (name, x)) => .isTrue ⟨name, x, ofEntry_iff.mp read⟩
  | .ok none => .isFalse fun ⟨name, x, scored⟩ => not_scoredAs_of_skipped read name x scored
  | .error _ => .isFalse fun ⟨name, x, scored⟩ => by
    rw [← ofEntry_iff, read] at scored
    cases scored

/-- Every entry that is taken counts or is skipped. -/
theorem skipped_takeAll (taken : r.takeAll entries = .ok done) :
    done.skipped = r.skipped + entries.countP (¬ Counts ·) := by
  induction entries generalizing r with
  | nil =>
    cases taken
    rfl
  | cons entry entries ih =>
    rw [takeAll_cons, Except.bind_eq_ok_iff] at taken
    obtain ⟨found, read, others⟩ := taken
    have later := ih others
    rcases ofEntry_cases read with ⟨name, x, rfl, scored⟩ | ⟨rfl, skipped⟩
    · have counts : Counts entry := ⟨name, x, scored⟩
      rw [later, List.countP_cons_of_neg (by simpa using counts)]
      rfl
    · rw [later, List.countP_cons_of_pos (by simpa using skipped)]
      show r.skipped + 1 + _ = _
      omega

/-- Taking entries keeps the names of benchmarks different. -/
theorem nodup_takeAll (taken : r.takeAll entries = .ok done)
    (different : (r.scores.map Prod.fst).Nodup) : (done.scores.map Prod.fst).Nodup := by
  induction entries generalizing r with
  | nil =>
    cases taken
    exact different
  | cons entry entries ih =>
    rw [takeAll_cons, Except.bind_eq_ok_iff] at taken
    obtain ⟨found, _, others⟩ := taken
    apply ih others
    cases found with
    | none => exact different
    | some pair => exact Json.setMember_nodup different

/-- Results have as many scores as there are benchmarks with one. -/
theorem length_scores (read : Results.ofJson (.array entries) = .ok r) :
    r.scores.length = {benchmark | ∃ entry ∈ entries, ∃ x, ScoredAs entry benchmark x}.ncard := by
  have different : (r.scores.map Prod.fst).Nodup := nodup_takeAll (r := {}) read List.nodup_nil
  have names : {benchmark | ∃ entry ∈ entries, ∃ x, ScoredAs entry benchmark x} =
      ↑(r.scores.map Prod.fst).toFinset := by
    refine Set.ext fun name => ?_
    rw [List.coe_toFinset]
    show (∃ entry ∈ entries, ∃ x, ScoredAs entry name x) ↔ name ∈ r.scores.map Prod.fst
    constructor
    · intro scored
      obtain ⟨x, last⟩ := exists_lastScore scored
      have known := (get?_eq_some_iff read name x).mpr last
      exact List.mem_map.mpr ⟨(name, x), mem_of_lookup known, rfl⟩
    · intro member
      obtain ⟨⟨name, x⟩, there, rfl⟩ := List.mem_map.mp member
      have known : r.get? name = some x := lookup_of_mem different there
      obtain ⟨before, entry, after, rfl, scored, _⟩ := (get?_eq_some_iff read name x).mp known
      exact ⟨entry, List.mem_append_right _ List.mem_cons_self, x, scored⟩
  rw [names, Set.ncard_coe_finset, List.toFinset_card_of_nodup different, List.length_map]

/-- What it means that results account for entries: they hold the last score of every benchmark, as
many of them as there are benchmarks with one, and all entries that do not count are skipped. -/
structure Accounts (entries : List Json) (r : Results) : Prop where
  scores : ∀ name x, r.get? name = some x ↔ LastScore entries name x
  absent : ∀ name, r.get? name = none ↔ Unscored entries name
  size : r.scores.length = {benchmark | ∃ entry ∈ entries, ∃ x, ScoredAs entry benchmark x}.ncard
  skipped : r.skipped = entries.countP (¬ Counts ·)
  total : r.skipped + entries.countP Counts = entries.length

/-- Results that are read account for their entries. -/
theorem accounts_of_ofJson (read : Results.ofJson (.array entries) = .ok r) :
    Accounts entries r := by
  have skipped : r.skipped = entries.countP (¬ Counts ·) := by
    have counted := skipped_takeAll (r := {}) read
    rwa [Nat.zero_add] at counted
  have total := List.length_eq_countP_add_countP (fun entry => decide (Counts entry)) (l := entries)
  simp only [decide_eq_true_eq] at total
  refine ⟨get?_eq_some_iff read, get?_eq_none_iff read, length_scores read, skipped, ?_⟩
  rw [skipped, total, Nat.add_comm]

/-- Reading an array of entries fails exactly where one is refused, for the first of them. -/
theorem ofText_eq_error_iff {path : Path} {text : String} {e : GateError}
    (array : Json.ofText text = .ok (.array entries)) :
    Results.ofText path text = .error e ↔
      ∃ entry name score, IsFirst IsRefused entries entry ∧ Misstates entry name score ∧
        e = .malformedResults path (.notNumber name score) := by
  unfold Results.ofText
  rw [array]
  show (Results.takeAll {} entries).mapError _ = _ ↔ _
  rw [Except.mapError_eq_error_iff]
  constructor
  · rintro ⟨fault, failed, rfl⟩
    obtain ⟨entry, name, score, first, misstated, rfl⟩ := takeAll_eq_error_iff.mp failed
    exact ⟨entry, name, score, first, misstated, rfl⟩
  · rintro ⟨entry, name, score, first, misstated, rfl⟩
    exact ⟨_, takeAll_eq_error_iff.mpr ⟨entry, name, score, first, misstated, rfl⟩, rfl⟩

/-- An array of entries is refused exactly where an entry names a benchmark and has something else
than a number for its score, with an error that names the first such entry. Otherwise it is read,
and the results account for all entries. -/
theorem results_account (path : Path) {text : String} {entries : List Json}
    (array : Json.ofText text = .ok (.array entries)) :
    ((∃ e, Results.ofText path text = .error e) ↔ ∃ entry ∈ entries, IsRefused entry) ∧
    (∀ e, Results.ofText path text = .error e →
      ∃ entry name score, IsFirst IsRefused entries entry ∧ Misstates entry name score ∧
        e = .malformedResults path (.notNumber name score) ∧
        e.message = "Malformed benchmark results " ++ path.text ++ ": " ++
          ("score for '" ++ name ++ "' is not a number: " ++ score.compact)) ∧
    ((∀ entry ∈ entries, ¬ IsRefused entry) →
      ∃ r, Results.ofText path text = .ok r ∧ Accounts entries r) := by
  refine ⟨⟨?_, ?_⟩, fun e refused => ?_, fun clear => ?_⟩
  · rintro ⟨e, refused⟩
    obtain ⟨entry, _, _, first, _⟩ := (ofText_eq_error_iff array).mp refused
    exact first.exists_mem
  · intro refused
    obtain ⟨entry, first⟩ := exists_isFirst refused
    obtain ⟨name, score, misstated⟩ := first.holds
    exact ⟨_, (ofText_eq_error_iff array).mpr ⟨entry, name, score, first, misstated, rfl⟩⟩
  · obtain ⟨entry, name, score, first, misstated, rfl⟩ := (ofText_eq_error_iff array).mp refused
    exact ⟨entry, name, score, first, misstated, rfl, rfl⟩
  · cases read : Results.ofText path text with
    | error e =>
      obtain ⟨entry, _, _, first, _⟩ := (ofText_eq_error_iff array).mp read
      obtain ⟨entry, member, refused⟩ := first.exists_mem
      exact absurd refused (clear entry member)
    | ok r =>
      unfold Results.ofText at read
      rw [array] at read
      exact ⟨r, rfl, accounts_of_ofJson (Except.mapError_eq_ok_iff.mp read)⟩

/-- Results with an entry that is no object and a benchmark that is measured twice, the second time
without a finite score. -/
def mixedResults : String :=
  "[7,\x7b\"benchmark\":\"a\",\"primaryMetric\":\x7b\"score\":\" 2 \"\x7d\x7d," ++
    "\x7b\"benchmark\":\"a\",\"primaryMetric\":\x7b\"score\":\"NaN\"\x7d\x7d]"

/-- The entries of the mixed results. -/
def mixedEntries : List Json :=
  [.number (.word 7),
    .object [("benchmark", .string "a"), ("primaryMetric", .object [("score", .string " 2 ")])],
    .object [("benchmark", .string "a"), ("primaryMetric", .object [("score", .string "NaN")])]]

/-- Two of the mixed entries are skipped, and the score of the other one is kept. -/
theorem mixedResults_account : Json.ofText mixedResults = .ok (.array mixedEntries) ∧
    (∀ entry ∈ mixedEntries, ¬ IsRefused entry) ∧
    ∃ r, Results.ofText ⟨"results.json"⟩ mixedResults = .ok r ∧ r.skipped = 2 ∧
      r.skipped + mixedEntries.countP Counts = 3 := by
  have array : Json.ofText mixedResults = .ok (.array mixedEntries) := rfl
  have clear : ∀ entry ∈ mixedEntries, ¬ IsRefused entry := by
    decide +kernel
  obtain ⟨r, read, accounts⟩ := (results_account ⟨"results.json"⟩ array).2.2 clear
  refine ⟨array, clear, r, read, ?_, accounts.total⟩
  rw [accounts.skipped]
  decide +kernel

end QualityGates
