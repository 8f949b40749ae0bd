import QualityGates.Proofs.Regression.Run
import QualityGates.Proofs.Regression.Score

/-!
# What the benchmark gate does not depend on

The outcome of a benchmark is decided by its own entries in the current results, in their order.
Entries of other benchmarks may stand anywhere between them, and entries of benchmarks that the
baseline does not name may be there or not.
-/

namespace QualityGates

/-! ## Entries of one benchmark -/

namespace Results

/-- The benchmark that an entry of current results is about, if it has the name of one. -/
def nameOf? (entry : Json) : Option String :=
  (entry.member? "benchmark").bind Json.string?

/-- The entries of one benchmark in their order. -/
def entriesOf (name : String) (entries : List Json) : List Json :=
  entries.filter fun entry => nameOf? entry == some name

end Results

variable {entry : Json} {entries entries' : List Json} {name : String} {x : Float}

namespace Results

/-- An entry of a benchmark is one of its entries. -/
theorem entriesOf_cons_own (own : nameOf? entry = some name) (entries : List Json) :
    entriesOf name (entry :: entries) = entry :: entriesOf name entries :=
  List.filter_cons_of_pos (beq_iff_eq.mpr own)

/-- An entry of another benchmark, or of none, is not one of its entries. -/
theorem entriesOf_cons_other (other : nameOf? entry ≠ some name) (entries : List Json) :
    entriesOf name (entry :: entries) = entriesOf name entries :=
  List.filter_cons_of_neg fun same => other (beq_iff_eq.mp same)

/-- The entries of a benchmark in two lists are those in one behind those in the other. -/
theorem entriesOf_append (name : String) (front back : List Json) :
    entriesOf name (front ++ back) = entriesOf name front ++ entriesOf name back :=
  List.filter_append front back

end Results

open Results (nameOf? entriesOf entriesOf_cons_own entriesOf_cons_other entriesOf_append)

/-- An entry that gives a benchmark a score has its name. -/
theorem ScoredAs.nameOf? (scored : ScoredAs entry name x) : nameOf? entry = some name := by
  unfold Results.nameOf?
  rw [scored.1]
  rfl

/-- Only its own entries can give a benchmark a score. -/
theorem unscored_entriesOf : Unscored (entriesOf name entries) name ↔ Unscored entries name := by
  constructor
  · intro silent entry member x scored
    exact silent entry (List.mem_filter.mpr ⟨member, beq_iff_eq.mpr scored.nameOf?⟩) x scored
  · exact fun silent entry member => silent entry (List.mem_filter.mp member).1

/-- The last score of a benchmark is the last one among its own entries. -/
theorem lastScore_entriesOf :
    LastScore (entriesOf name entries) name x ↔ LastScore entries name x := by
  induction entries with
  | nil => rfl
  | cons entry entries ih =>
    by_cases own : nameOf? entry = some name
    · rw [entriesOf_cons_own own, lastScore_cons, lastScore_cons, ih, unscored_entriesOf]
    · have silent : ¬ ScoredAs entry name x := fun scored => own scored.nameOf?
      rw [entriesOf_cons_other own, ih, lastScore_cons]
      exact ⟨.inl, fun either => either.elim id fun scored => absurd scored.2 silent⟩

/-- Results with the same entries of a benchmark give it the same score. -/
theorem get?_eq_of_entriesOf {r r' : Results} (read : Results.ofJson (.array entries) = .ok r)
    (read' : Results.ofJson (.array entries') = .ok r')
    (same : entriesOf name entries' = entriesOf name entries) : r'.get? name = r.get? name := by
  refine Option.ext fun x => ?_
  rw [get?_eq_some_iff read', get?_eq_some_iff read, ← lastScore_entriesOf, same,
    lastScore_entriesOf]

namespace Regression

/-! ## Changes that no benchmark of a baseline can notice -/

/-- How current results may change without a change for any of the named benchmarks: entries of
different benchmarks change places, and entries of no named benchmark come and go. -/
inductive Rearranged (names : List String) : List Json → List Json → Prop where
  | same (entries : List Json) : Rearranged names entries entries
  | exchanged {front back : List Json} {one other : Json}
    (different : nameOf? one ≠ nameOf? other) :
    Rearranged names (front ++ one :: other :: back) (front ++ other :: one :: back)
  | added {front back : List Json} {entry : Json}
    (ungated : ∀ name ∈ names, nameOf? entry ≠ some name) :
    Rearranged names (front ++ back) (front ++ entry :: back)
  | removed {front back : List Json} {entry : Json}
    (ungated : ∀ name ∈ names, nameOf? entry ≠ some name) :
    Rearranged names (front ++ entry :: back) (front ++ back)
  | andThen {first second third : List Json} (before : Rearranged names first second)
    (after : Rearranged names second third) : Rearranged names first third

variable {names : List String}

/-- An entry of no named benchmark leaves the entries of each of them as they are. -/
theorem entriesOf_insert (ungated : ∀ name ∈ names, nameOf? entry ≠ some name)
    (front back : List Json) (member : name ∈ names) :
    entriesOf name (front ++ entry :: back) = entriesOf name (front ++ back) := by
  rw [entriesOf_append, entriesOf_append, entriesOf_cons_other (ungated name member)]

/-- The entries of a benchmark do not tell in which order two entries stand that are not both its
own. -/
theorem entriesOf_exchange {one other : Json} (different : nameOf? one ≠ nameOf? other)
    (name : String) (front back : List Json) :
    entriesOf name (front ++ other :: one :: back) =
      entriesOf name (front ++ one :: other :: back) := by
  rw [entriesOf_append, entriesOf_append]
  by_cases own : nameOf? one = some name
  · have foreign : nameOf? other ≠ some name := fun same => different (own.trans same.symm)
    rw [entriesOf_cons_other foreign, entriesOf_cons_own own, entriesOf_cons_own own,
      entriesOf_cons_other foreign]
  · by_cases own' : nameOf? other = some name
    · rw [entriesOf_cons_own own', entriesOf_cons_other own, entriesOf_cons_other own,
        entriesOf_cons_own own']
    · rw [entriesOf_cons_other own', entriesOf_cons_other own, entriesOf_cons_other own,
        entriesOf_cons_other own']

/-- Rearranged results have the same entries of each named benchmark. -/
theorem Rearranged.entriesOf_eq (rearranged : Rearranged names entries entries')
    (member : name ∈ names) : entriesOf name entries' = entriesOf name entries := by
  induction rearranged with
  | same => rfl
  | exchanged different => exact entriesOf_exchange different name _ _
  | added ungated => exact entriesOf_insert ungated _ _ member
  | removed ungated => exact (entriesOf_insert ungated _ _ member).symm
  | andThen _ _ before after => exact after.trans before

/-! ## Verdicts -/

/-- What is found about a benchmark depends on its own score alone. -/
theorem finding?_congr (t : Thresholds) {r r' : Results} (same : r'.get? name = r.get? name)
    (b : Float) : finding? t r' name b = finding? t r name b := by
  unfold finding?
  rw [same]

/-- Results with the same scores for the benchmarks of a baseline get the same verdict. -/
theorem verdict_congr (t : Thresholds) {b : Baseline} {r r' : Results}
    (same : ∀ entry ∈ b.entries, r'.get? entry.1 = r.get? entry.1) :
    verdict t b r' = verdict t b r := by
  have found : findings t b r' = findings t b r :=
    List.filterMap_congr fun entry member => finding?_congr t (same entry member) entry.2
  unfold verdict
  rw [found]

/-- The names that are written in the baseline at a path. -/
def WrittenIn (s : Surroundings) (p : Path) (names : List String) : Prop :=
  ∃ text written, (Lookup.text p).inside s = .ok text ∧ Json.writtenMembers text = .ok written ∧
    names = written.map Prod.fst

/-- Whether the file at a path holds an array of entries that is taken for current results. -/
def MeasuredIn (s : Surroundings) (p : Path) (entries : List Json) : Prop :=
  ∃ text r, (Lookup.text p).inside s = .ok text ∧ Json.ofText text = .ok (.array entries) ∧
    Results.ofJson (.array entries) = .ok r

/-- Whether two runs compare the same baseline by the same thresholds, each with results that are
taken. -/
structure DifferInResults (s s' : Surroundings) (c c' : RegressionConfig)
    (entries entries' : List Json) : Prop where
  thresholds : c'.thresholds = c.thresholds
  baseline : c'.baseline = c.baseline
  recorded : (Lookup.text c.baseline).inside s' = (Lookup.text c.baseline).inside s
  measured : MeasuredIn s c.current entries
  measured' : MeasuredIn s' c'.current entries'

variable {s s' : Surroundings} {c c' : RegressionConfig} {p : Path}

/-- A baseline with the same text is loaded alike. -/
theorem inside_baseline_congr (same : (Lookup.text p).inside s' = (Lookup.text p).inside s) :
    (Baseline.load p).inside s' = (Baseline.load p).inside s := by
  unfold Baseline.load
  rw [Lookup.inside_bind, Lookup.inside_bind, Lookup.inside_requiredText,
    Lookup.inside_requiredText, same]
  rfl

/-- Results that are taken are loaded. -/
theorem MeasuredIn.load_eq (measured : MeasuredIn s p entries) :
    ∃ r, Results.ofJson (.array entries) = .ok r ∧ (Results.load p).inside s = .ok r := by
  obtain ⟨text, r, found, parsed, read⟩ := measured
  refine ⟨r, read, ?_⟩
  unfold Results.load
  rw [Lookup.inside_bind, Lookup.inside_requiredText, found]
  show Results.ofText p text = _
  unfold Results.ofText
  rw [parsed]
  dsimp only
  rw [read]
  rfl

/-- Runs that only differ in entries that no benchmark of the baseline can notice end alike. -/
theorem DifferInResults.inside_run_eq (runs : DifferInResults s s' c c' entries entries')
    (same : ∀ names, WrittenIn s c.baseline names →
      ∀ name ∈ names, entriesOf name entries' = entriesOf name entries) :
    (run c').inside s' = (run c).inside s := by
  obtain ⟨r, read, loaded⟩ := runs.measured.load_eq
  obtain ⟨r', read', loaded'⟩ := runs.measured'.load_eq
  rw [inside_run, inside_run, runs.thresholds, runs.baseline, inside_baseline_congr runs.recorded,
    loaded, loaded']
  congr 1
  funext _
  cases known : (Baseline.load c.baseline).inside s with
  | error e => rfl
  | ok b =>
    obtain ⟨text, written, found, there, recorded⟩ := Baseline.load_ok known
    obtain ⟨names, _⟩ := baseline_entries recorded
    refine congrArg Except.ok (verdict_congr _ fun entry member => ?_)
    refine get?_eq_of_entriesOf read read' (same _ ⟨text, written, found, there, rfl⟩ _ ?_)
    rw [← List.mem_eraseDups, ← names]
    exact List.mem_map_of_mem member

/-- The verdict on a baseline only depends on the entries that its own benchmarks have in the
results: neither their places among other entries matter nor what else is measured. -/
theorem run_eq_of_same_entries (runs : DifferInResults s s' c c' entries entries') :
    ((∀ names, WrittenIn s c.baseline names →
        ∀ name ∈ names, entriesOf name entries' = entriesOf name entries) →
      (run c').inside s' = (run c).inside s) ∧
    ((∀ names, WrittenIn s c.baseline names → Rearranged names entries entries') →
      (run c').inside s' = (run c).inside s) := by
  refine ⟨runs.inside_run_eq,
    fun rearranged => runs.inside_run_eq fun names there name member => ?_⟩
  exact (rearranged names there).entriesOf_eq member

/-- Results for two benchmarks. -/
def twoResults : String :=
  "[\x7b\"benchmark\":\"a\",\"primaryMetric\":\x7b\"score\":1\x7d\x7d," ++
    "\x7b\"benchmark\":\"b\",\"primaryMetric\":\x7b\"score\":9\x7d\x7d]"

/-- The same results in another order, with an entry without a name between them. -/
def threeResults : String :=
  "[\x7b\"benchmark\":\"b\",\"primaryMetric\":\x7b\"score\":9\x7d\x7d,\x7b\x7d," ++
    "\x7b\"benchmark\":\"a\",\"primaryMetric\":\x7b\"score\":1\x7d\x7d]"

/-- A project with a baseline and both results. -/
def twiceMeasured : Surroundings where
  tree := ⟨[(["p", "baseline.json"], .file "\x7b\"a\":4\x7d".toUTF8),
    (["p", "two.json"], .file twoResults.toUTF8),
    (["p", "three.json"], .file threeResults.toUTF8)]⟩
  workingDirectory := ["p"]

/-- The comparison with one of the results. -/
def measuredAs (results : String) : RegressionConfig where
  baseline := ⟨"baseline.json"⟩
  current := ⟨results⟩

/-- An entry with the name of a benchmark and its score. -/
def plainEntry (name : String) (score : UInt64) : Json :=
  .object [("benchmark", .string name),
    ("primaryMetric", .object [("score", .number (.word score))])]

/-- Both results are taken. -/
theorem twiceMeasured_differ : DifferInResults twiceMeasured twiceMeasured
    (measuredAs "two.json") (measuredAs "three.json")
    [plainEntry "a" 1, plainEntry "b" 9] [plainEntry "b" 9, .object [], plainEntry "a" 1] := by
  refine ⟨rfl, rfl, rfl, ⟨twoResults, _, Lookup.inside_text_of_bytes rfl, ?_, rfl⟩,
    ⟨threeResults, _, Lookup.inside_text_of_bytes rfl, ?_, rfl⟩⟩
  · rfl
  · rfl

/-- The two benchmarks have changed places, and the entry without a name was added. -/
theorem twiceMeasured_rearranged (names : List String) : Rearranged names
    [plainEntry "a" 1, plainEntry "b" 9] [plainEntry "b" 9, .object [], plainEntry "a" 1] := by
  have exchanged : Rearranged names ([] ++ plainEntry "a" 1 :: plainEntry "b" 9 :: [])
      ([] ++ plainEntry "b" 9 :: plainEntry "a" 1 :: []) := .exchanged (by decide)
  have added : Rearranged names ([plainEntry "b" 9] ++ [plainEntry "a" 1])
      ([plainEntry "b" 9] ++ .object [] :: [plainEntry "a" 1]) :=
    .added fun name _ named => (nomatch named)
  exact exchanged.andThen added

/-- The two results get the same verdict. -/
theorem twiceMeasured_run_eq : DifferInResults twiceMeasured twiceMeasured
    (measuredAs "two.json") (measuredAs "three.json")
    [plainEntry "a" 1, plainEntry "b" 9] [plainEntry "b" 9, .object [], plainEntry "a" 1] ∧
    (run (measuredAs "three.json")).inside twiceMeasured =
      (run (measuredAs "two.json")).inside twiceMeasured :=
  ⟨twiceMeasured_differ, (run_eq_of_same_entries twiceMeasured_differ).2
    fun names _ => twiceMeasured_rearranged names⟩

end Regression
end QualityGates
