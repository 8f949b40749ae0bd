import QualityGates.Proofs.Number.Order
import QualityGates.Proofs.Regression.Run
import QualityGates.Proofs.Regression.Score

/-!
# What the benchmark gate says about each benchmark

Every name of the baseline has one of four outcomes, and the gate reports them in the order in which
the names are first written. The statement is about the members of the object as they stand in the
text of the baseline and about the entries of the results, duplicates included; it does not mention
the tables that the gate builds from them.
-/

namespace QualityGates

namespace Regression

/-! ## Outcomes -/

/-- Whether a marker stands somewhere in the name of a benchmark. -/
def Marked (marker name : String) : Prop :=
  ∃ before after, name.toList = before ++ (marker.toList ++ after)

/-- The fraction of its recorded score that a benchmark may lose. -/
inductive Allowed (t : Thresholds) (name : String) : Float → Prop where
  | flat (marked : Marked t.flatMarker name) : Allowed t name t.flat
  | embedded (unmarked : ¬ Marked t.flatMarker name) (marked : Marked t.embeddedMarker name) :
      Allowed t name t.embedded
  | larger {x : Float} (notFlat : ¬ Marked t.flatMarker name)
      (notEmbedded : ¬ Marked t.embeddedMarker name)
      (which : x = if t.flat ≤ t.embedded then t.embedded else t.flat)
      (atLeastFlat : t.flat ≤ x) (atLeastEmbedded : t.embedded ≤ x) : Allowed t name x

/-- A recorded score that nothing can be compared with. -/
def BadScore (b : Float) : Prop :=
  b.isNaN = true ∨ b.isInf = true ∨ b ≤ 0.0

/-- What there is to report about a name of a baseline. -/
inductive Outcome (t : Thresholds) (written : List (String × Json)) (entries : List Json)
    (name : String) : Option Finding → Prop where
  /-- The benchmark did not run. -/
  | missing (silent : Unscored entries name) :
      Outcome t written entries name (some
        { location := name
          ruleId := "missing-benchmark-result"
          message := "missing benchmark result"
          detail := none })
  /-- The benchmark ran, but its recorded score is of no use. -/
  | invalid {b c : Float} (recorded : RecordedScore written name b)
      (measured : LastScore entries name c) (bad : BadScore b) :
      Outcome t written entries name (some
        { location := name
          ruleId := "invalid-baseline-score"
          message := "invalid baseline score: " ++ Number.plainText b
          detail := none })
  /-- The benchmark lost more than it may. -/
  | regressed {b c allowed : Float} (recorded : RecordedScore written name b)
      (measured : LastScore entries name c) (good : ¬ BadScore b)
      (may : Allowed t name allowed) (lost : c < b * (1.0 - allowed)) :
      Outcome t written entries name (some
        { location := name
          ruleId := "throughput-regression"
          message := message ⟨b, c, (b - c) / b, allowed⟩
          detail := some ⟨b, c, (b - c) / b, allowed⟩ })
  /-- The benchmark is as fast as it has to be. -/
  | held {b c allowed : Float} (recorded : RecordedScore written name b)
      (measured : LastScore entries name c) (good : ¬ BadScore b)
      (may : Allowed t name allowed) (enough : ¬ c < b * (1.0 - allowed)) :
      Outcome t written entries name none

variable {t : Thresholds} {written : List (String × Json)} {entries : List Json} {name : String}

/-- A marker is looked for character by character. -/
theorem occursIn_iff {marker : String} : Text.occursIn marker name = true ↔ Marked marker name :=
  Text.isPart_iff

/-- A benchmark has at most one allowed fraction. -/
theorem Allowed.unique {x y : Float} (first : Allowed t name x) (second : Allowed t name y) :
    x = y := by
  cases first with
  | flat marked => cases second with
    | flat => rfl
    | embedded unmarked => exact absurd marked unmarked
    | larger notFlat => exact absurd marked notFlat
  | embedded unmarked marked => cases second with
    | flat marked' => exact absurd marked' unmarked
    | embedded => rfl
    | larger _ notEmbedded => exact absurd marked notEmbedded
  | larger notFlat notEmbedded which => cases second with
    | flat marked => exact absurd marked notFlat
    | embedded _ marked => exact absurd marked notEmbedded
    | larger _ _ which' => rw [which, which']

/-- The gate allows a benchmark its fraction. -/
theorem allowedFor_spec (accepted : t.invalid? = none) (name : String) :
    Allowed t name (t.allowedFor name) := by
  obtain ⟨flat, embedded⟩ := Thresholds.isFraction_of_accepted accepted
  obtain ⟨which, atLeastFlat, atLeastEmbedded⟩ :=
    Number.largerFloat_spec (Number.isNaN_of_isFraction flat) (Number.isNaN_of_isFraction embedded)
  unfold Thresholds.allowedFor
  by_cases isFlat : Text.occursIn t.flatMarker name = true
  · rw [if_pos isFlat]
    exact .flat (occursIn_iff.mp isFlat)
  · rw [if_neg isFlat]
    rw [occursIn_iff] at isFlat
    by_cases isEmbedded : Text.occursIn t.embeddedMarker name = true
    · rw [if_pos isEmbedded]
      exact .embedded isFlat (occursIn_iff.mp isEmbedded)
    · rw [if_neg isEmbedded]
      rw [occursIn_iff] at isEmbedded
      exact .larger isFlat isEmbedded which atLeastFlat atLeastEmbedded

/-- The gate rejects the recorded scores that are of no use. -/
theorem badScore_iff {b : Float} : (!b.isFinite || decide (b ≤ 0.0)) = true ↔ BadScore b := by
  rw [Bool.or_eq_true, Bool.not_eq_true', Number.isFinite_eq_false_iff, decide_eq_true_iff,
    or_assoc]
  rfl

/-- A baseline records one score for a name. -/
theorem recordedScore_unique {b b' : Float} (first : RecordedScore written name b)
    (second : RecordedScore written name b') : b = b' := by
  obtain ⟨value, last, scored⟩ := first
  obtain ⟨value', last', scored'⟩ := second
  rw [← Json.lookup_reverse_iff] at last last'
  obtain rfl := Option.some.inj (last.symm.trans last')
  exact Option.some.inj (scored.symm.trans scored')

/-- A name has at most one outcome. -/
theorem Outcome.unique {first second : Option Finding}
    (one : Outcome t written entries name first) (other : Outcome t written entries name second) :
    first = second := by
  cases one with
  | missing silent => cases other with
    | missing => rfl
    | invalid _ measured => exact absurd silent measured.not_unscored
    | regressed _ measured => exact absurd silent measured.not_unscored
    | held _ measured => exact absurd silent measured.not_unscored
  | invalid recorded measured bad => cases other with
    | missing silent => exact absurd silent measured.not_unscored
    | invalid recorded' => rw [recordedScore_unique recorded recorded']
    | regressed recorded' _ good =>
      obtain rfl := recordedScore_unique recorded recorded'
      exact absurd bad good
    | held recorded' _ good =>
      obtain rfl := recordedScore_unique recorded recorded'
      exact absurd bad good
  | regressed recorded measured good may lost => cases other with
    | missing silent => exact absurd silent measured.not_unscored
    | invalid recorded' _ bad =>
      obtain rfl := recordedScore_unique recorded recorded'
      exact absurd bad good
    | regressed recorded' measured' _ may' =>
      rw [recordedScore_unique recorded recorded', measured.unique measured', may.unique may']
    | held recorded' measured' _ may' enough =>
      obtain rfl := recordedScore_unique recorded recorded'
      obtain rfl := measured.unique measured'
      obtain rfl := may.unique may'
      exact absurd lost enough
  | held recorded measured good may enough => cases other with
    | missing silent => exact absurd silent measured.not_unscored
    | invalid recorded' _ bad =>
      obtain rfl := recordedScore_unique recorded recorded'
      exact absurd bad good
    | regressed recorded' measured' _ may' lost =>
      obtain rfl := recordedScore_unique recorded recorded'
      obtain rfl := measured.unique measured'
      obtain rfl := may.unique may'
      exact absurd lost enough
    | held => rfl

/-- The gate finds the outcome of a name. -/
theorem finding?_outcome (accepted : t.invalid? = none) {r : Results}
    (read : Results.ofJson (.array entries) = .ok r) {b : Float}
    (recorded : RecordedScore written name b) :
    Outcome t written entries name (finding? t r name b) := by
  unfold finding?
  cases known : r.get? name with
  | none => exact .missing ((get?_eq_none_iff read name).mp known)
  | some c =>
    have measured := (get?_eq_some_iff read name c).mp known
    dsimp only
    by_cases rejected : (!b.isFinite || decide (b ≤ 0.0)) = true
    · rw [if_pos rejected]
      exact .invalid recorded measured (badScore_iff.mp rejected)
    · rw [if_neg rejected]
      rw [badScore_iff] at rejected
      have may := allowedFor_spec accepted name
      unfold compare leastScore
      by_cases lost : c < b * (1.0 - t.allowedFor name)
      · rw [if_pos lost]
        exact .regressed recorded measured rejected may lost
      · rw [if_neg lost]
        exact .held recorded measured rejected may lost

/-- A finding is about the name whose outcome it is. -/
theorem Outcome.location_eq {f : Finding} (outcome : Outcome t written entries name (some f)) :
    f.location = name := by
  cases outcome <;> rfl

/-! ## The verdict -/

/-- What a verdict says about the members that are written in a baseline and the entries of current
results. -/
structure Judges (t : Thresholds) (written : List (String × Json)) (entries : List Json)
    (v : Verdict) : Prop where
  /-- The verdict is one of this gate. -/
  gate : v.gate = .benchRegression
  /-- Every name has a recorded score. -/
  recorded : ∀ name ∈ written.map Prod.fst, ∃ b, RecordedScore written name b
  /-- Different names are counted. -/
  examined : v.targetsExamined = (written.map Prod.fst).eraseDups.length
  /-- Every name has one outcome, and the findings among the outcomes are reported in the order in
  which names are first written. -/
  findings : ∃ outcomes, List.Forall₂ (fun name outcome => Outcome t written entries name outcome ∧
      ∀ other, Outcome t written entries name other → other = outcome)
    (written.map Prod.fst).eraseDups outcomes ∧ v.findings = outcomes.filterMap id
  /-- Nothing is reported about other names. -/
  located : ∀ f ∈ v.findings, f.location ∈ written.map Prod.fst
  /-- The verdict passes when every benchmark is as fast as it has to be. -/
  passed : v.passed = true ↔ ∀ name ∈ written.map Prod.fst, Outcome t written entries name none

/-- The verdict on a baseline and results judges the names that are written in the baseline. -/
theorem judges_verdict (accepted : t.invalid? = none) {b : Baseline} {r : Results}
    (recorded : Baseline.ofJson (.object (Json.mergeMembers written)) = .ok b)
    (measured : Results.ofJson (.array entries) = .ok r) :
    Judges t written entries (verdict t b r) := by
  obtain ⟨names, scores⟩ := baseline_entries recorded
  have known : ∀ {name}, name ∈ written.map Prod.fst ↔ ∃ entry ∈ b.entries, entry.1 = name := by
    intro name
    rw [← List.mem_eraseDups, ← names, List.mem_map]
  have outcome : ∀ entry ∈ b.entries, Outcome t written entries entry.1
      (finding? t r entry.1 entry.2) :=
    fun entry member => finding?_outcome accepted measured (scores entry member)
  refine ⟨rfl, ?_, ?_, ⟨b.entries.map fun entry => finding? t r entry.1 entry.2, ?_, ?_⟩, ?_, ?_⟩
  · intro name member
    obtain ⟨entry, entryIn, rfl⟩ := known.mp member
    exact ⟨entry.2, scores entry entryIn⟩
  · show b.entries.length = _
    rw [← names, List.length_map]
  · rw [← names, List.forall₂_map_left_iff, List.forall₂_map_right_iff, List.forall₂_same]
    exact fun entry member =>
      ⟨outcome entry member, fun other otherwise => otherwise.unique (outcome entry member)⟩
  · show b.entries.filterMap _ = _
    rw [List.filterMap_map]
    rfl
  · intro f member
    obtain ⟨entry, entryIn, found⟩ := List.mem_filterMap.mp member
    have here := outcome entry entryIn
    rw [found] at here
    exact known.mpr ⟨entry, entryIn, here.location_eq.symm⟩
  · show (findings t b r).isEmpty = true ↔ _
    rw [List.isEmpty_iff, findings, List.filterMap_eq_nil_iff]
    constructor
    · intro silent name member
      obtain ⟨entry, entryIn, rfl⟩ := known.mp member
      rw [← silent entry entryIn]
      exact outcome entry entryIn
    · intro held entry entryIn
      exact (outcome entry entryIn).unique (held entry.1 (known.mpr ⟨entry, entryIn, rfl⟩))

/-- A run that comes to a verdict judges every name that is written in the baseline, by the score
that is written last for it and the score that was measured last. -/
theorem judges_every_benchmark {s : Surroundings} {c : RegressionConfig} {v : Verdict}
    (done : (run c).inside s = .ok v) :
    ∃ baselineText resultsText written entries,
      (Lookup.text c.baseline).inside s = .ok baselineText ∧
      (Lookup.text c.current).inside s = .ok resultsText ∧
      Json.writtenMembers baselineText = .ok written ∧
      Json.ofText resultsText = .ok (.array entries) ∧
      Judges c.thresholds written entries v := by
  obtain ⟨accepted, b, r, baseline, results, rfl⟩ := run_ok done
  obtain ⟨baselineText, written, baselineFound, members, recorded⟩ := Baseline.load_ok baseline
  obtain ⟨resultsText, entries, resultsFound, parsed, measured⟩ := Results.load_ok results
  exact ⟨baselineText, resultsText, written, entries, baselineFound, resultsFound, members, parsed,
    judges_verdict accepted recorded measured⟩

/-- A baseline in which a name is written twice, and results that lack one of its names and have
another one that it lacks. -/
def sampleProject : Surroundings where
  tree := ⟨[(["p", "baseline.json"], .file
      "\x7b\"a.flat_x\": \"NaN\", \"b\": 8, \"a.flat_x\": 4, \"c\": 1\x7d".toUTF8),
    (["p", "results.json"], .file
      "[\x7b\"benchmark\": \"b\", \"primaryMetric\": \x7b\"score\": 2\x7d\x7d,
        \x7b\"benchmark\": \"d\", \"primaryMetric\": \x7b\"score\": 1\x7d\x7d,
        \x7b\"benchmark\": \"a.flat_x\", \"primaryMetric\": \x7b\"score\": 4\x7d\x7d]".toUTF8)]⟩
  workingDirectory := ["p"]

/-- A configuration with the thresholds that hold where none are given. -/
def sampleConfig : RegressionConfig where
  baseline := ⟨"/p/baseline.json"⟩
  current := ⟨"/p/results.json"⟩

/-- The run over the sample baseline judges each of its names. -/
theorem sample_judged : ∃ v, (run sampleConfig).inside sampleProject = .ok v ∧
    ∃ baselineText resultsText written entries,
      (Lookup.text sampleConfig.baseline).inside sampleProject = .ok baselineText ∧
      (Lookup.text sampleConfig.current).inside sampleProject = .ok resultsText ∧
      Json.writtenMembers baselineText = .ok written ∧
      Json.ofText resultsText = .ok (.array entries) ∧
      Judges sampleConfig.thresholds written entries v := by
  have completes : ((run sampleConfig).inside sampleProject).isOk = true := by decide +kernel
  obtain ⟨v, done⟩ := Except.exists_of_isOk completes
  exact ⟨v, done, judges_every_benchmark done⟩

end Regression
end QualityGates
