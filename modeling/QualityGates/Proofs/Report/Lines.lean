import QualityGates.Proofs.Drift.Findings
import QualityGates.Proofs.Number.Digits
import QualityGates.Proofs.Regression.Outcome
import QualityGates.Report

/-!
# The lines of a text report

A report that failed has a line for its title and then the lines of its findings, in order. What the
gates put into a finding by themselves breaks no line: identifiers, messages and numbers. What they
take over from the project does: the name of a file or of a benchmark goes into a report as it is,
so every line feed in it adds a line.
-/

namespace QualityGates

/-! ## Texts that break no line -/

namespace Text

variable {s t : String}

/-- A text without line feeds and carriage returns. -/
def Unbroken (s : String) : Prop :=
  ∀ c ∈ s.toList, c ≠ '\n' ∧ c ≠ '\r'

instance : DecidablePred Unbroken := fun s =>
  decidable_of_iff (s.toList.all fun c => c != '\n' && c != '\r') (by simp [Unbroken])

/-- Two texts together break no line when neither does. -/
theorem unbroken_append_iff : Unbroken (s ++ t) ↔ Unbroken s ∧ Unbroken t := by
  unfold Unbroken
  rw [String.toList_append, List.forall_mem_append]

/-- A text that breaks no line has no line feed. -/
theorem Unbroken.newline_notMem (unbroken : Unbroken s) : '\n' ∉ s.toList :=
  fun member => (unbroken _ member).1 rfl

/-- The lines of a text. -/
def linesOf (s : String) : List String :=
  (lines s.toList).map String.ofList

/-- A text that is followed by a line feed is ended. -/
theorem ended_newline (s : String) : Ended (s ++ "\n").toList := by
  intro c last
  rw [String.toList_append, List.getLast?_append] at last
  exact (Option.some.inj last).symm

/-- A text that is followed by a line feed has one more line than line feeds. -/
theorem length_linesOf_newline (s : String) :
    (linesOf (s ++ "\n")).length = 1 + s.toList.count '\n' := by
  rw [linesOf, List.length_map, (lines_made _).length_eq (ended_newline s), String.toList_append,
    List.count_append, Nat.add_comm]
  rfl

/-- A text that holds no line feed and does not end with a carriage return is a line. -/
theorem linesOf_newline (whole : '\n' ∉ s.toList) (bare : s.toList.getLast? ≠ some '\r') :
    linesOf (s ++ "\n") = [s] := by
  rw [linesOf, String.toList_append]
  show (lines (s.toList ++ '\n' :: [])).map String.ofList = [s]
  rw [lines_append_feed [] whole bare, lines, List.map_singleton, String.ofList_toList]

/-- Texts that are each followed by a line feed have their lines one after the other. -/
theorem linesOf_join (texts : List String) :
    linesOf (String.join (texts.map fun text => text ++ "\n")) =
      texts.flatMap fun text => linesOf (text ++ "\n") := by
  induction texts with
  | nil => rfl
  | cons text texts ih =>
    rw [List.map_cons, String.join_cons, linesOf, String.toList_append,
      lines_append (ended_newline text), List.map_append, List.flatMap_cons, ← ih]
    rfl

end Text

/-! ## What the gates say by themselves -/

open Text (Unbroken unbroken_append_iff linesOf)

namespace Number

variable {ds : List Char}

/-- Digits break no line. -/
theorem unbroken_of_digits (digits : ∀ c ∈ ds, isDigit c = true) : Unbroken (String.ofList ds) := by
  intro c member
  rw [String.toList_ofList] at member
  have digit := digits c member
  constructor
  · rintro rfl
    exact absurd digit (by decide)
  · rintro rfl
    exact absurd digit (by decide)

/-- The first digits break no line. -/
theorem unbroken_take (digits : ∀ c ∈ ds, isDigit c = true) (n : Nat) :
    Unbroken (String.ofList (ds.take n)) :=
  unbroken_of_digits fun c member => digits c (List.mem_of_mem_take member)

/-- The last digits break no line. -/
theorem unbroken_drop (digits : ∀ c ∈ ds, isDigit c = true) (n : Nat) :
    Unbroken (String.ofList (ds.drop n)) :=
  unbroken_of_digits fun c member => digits c (List.mem_of_mem_drop member)

/-- A number breaks no line. -/
theorem unbroken_natText (n : Nat) : Unbroken (natText n) :=
  unbroken_of_digits fun _ => isDigit_of_mem_toDigits

/-- A sign breaks no line. -/
theorem unbroken_signText (negative : Bool) : Unbroken (signText negative) := by
  cases negative <;> decide

/-- Zeros break no line. -/
theorem unbroken_zeros (n : Nat) : Unbroken (zeros n) :=
  unbroken_of_digits fun _ member => List.eq_of_mem_replicate member ▸ rfl

/-- A decimal breaks no line. -/
theorem unbroken_positional (digits : ∀ c ∈ ds, isDigit c = true) (point : Int) :
    Unbroken (positional ds point) := by
  unfold positional
  split
  · simp only [unbroken_append_iff]
    exact ⟨⟨by decide, unbroken_zeros _⟩, unbroken_of_digits digits⟩
  · split
    · exact unbroken_append_iff.mpr ⟨unbroken_of_digits digits, unbroken_zeros _⟩
    · simp only [unbroken_append_iff]
      exact ⟨⟨unbroken_take digits _, by decide⟩, unbroken_drop digits _⟩

/-- A float with the fewest digits breaks no line. -/
theorem unbroken_plainText (x : Float) : Unbroken (plainText x) := by
  unfold plainText
  cases Binary64.ofFloat x with
  | nan => decide
  | infinite negative =>
    exact unbroken_append_iff.mpr ⟨unbroken_signText negative, by decide⟩
  | finite negative significand exponent =>
    dsimp only
    split
    · exact unbroken_append_iff.mpr ⟨unbroken_signText negative, by decide⟩
    · exact unbroken_append_iff.mpr ⟨unbroken_signText negative,
        unbroken_positional (fun _ => isDigit_of_mem_toDigits) _⟩

/-- A float with a fixed number of places breaks no line. -/
theorem unbroken_fixedText (places : Nat) (x : Float) : Unbroken (fixedText places x) := by
  intro c member
  constructor
  · rintro rfl
    exact absurd (mem_fixedText member) (by decide)
  · rintro rfl
    exact absurd (mem_fixedText member) (by decide)

end Number

/-- A version breaks no line. -/
theorem Version.unbroken_text (v : Version) : Unbroken v.text := by
  unfold text
  simp only [unbroken_append_iff, Number.unbroken_natText, true_and, and_true]
  decide

/-- Whether a finding breaks no line but in what it is about. -/
structure Finding.Worded (f : Finding) : Prop where
  ruleId : Unbroken f.ruleId
  message : Unbroken f.message

namespace Finding.Worded

variable {f : Finding}

/-- The line feeds in what reports a finding are those in its location. -/
theorem count_line (worded : f.Worded) :
    f.line.toList.count '\n' = f.location.toList.count '\n' := by
  have ruleId := List.count_eq_zero.mpr worded.ruleId.newline_notMem
  have message := List.count_eq_zero.mpr worded.message.newline_notMem
  unfold Finding.line
  simp only [String.toList_append, List.count_append, ruleId, message]
  rfl

/-- What reports a finding does not end with a carriage return. -/
theorem getLast?_line (worded : f.Worded) : f.line.toList.getLast? ≠ some '\r' := by
  unfold Finding.line
  rw [String.toList_append, List.getLast?_append]
  cases last : f.message.toList.getLast? with
  | none =>
    rw [String.toList_append, List.getLast?_append]
    exact (by decide : some ' ' ≠ some '\r')
  | some c =>
    intro same
    exact (worded.message c (List.mem_of_getLast? last)).2 (Option.some.inj same)

/-- A finding about something without a line feed is reported in one line. -/
theorem linesOf_line (worded : f.Worded) (whole : '\n' ∉ f.location.toList) :
    linesOf (f.line ++ "\n") = [f.line] := by
  refine Text.linesOf_newline ?_ worded.getLast?_line
  rw [← List.count_eq_zero] at whole ⊢
  rw [worded.count_line, whole]

end Finding.Worded

/-- The message about stale versions breaks no line. -/
theorem Rule.unbroken_staleMessage (baseline : Option Version) :
    Unbroken (staleMessage baseline) := by
  cases baseline with
  | none => decide
  | some version =>
    unfold staleMessage
    simp only [unbroken_append_iff, version.unbroken_text, and_true]
    decide

/-- The rules of the drift gate break no line. -/
theorem Rule.unbroken_of_mem_forDocs {baseline : Option Version} {literals : List String} {r : Rule}
    (member : r ∈ forDocs baseline literals) : Unbroken r.id ∧ Unbroken r.message := by
  unfold forDocs staleVersion? at member
  rcases List.mem_append.mp member with stale | other
  · obtain ⟨written, _, rfl⟩ := Option.map_eq_some_iff.mp (Option.mem_toList.mp stale)
    have id : Unbroken staleVersionId := by decide
    exact ⟨id, unbroken_staleMessage baseline⟩
  · rcases List.mem_pair.mp other with rfl | rfl
    · exact ⟨by decide, by decide⟩
    · exact ⟨by decide, by decide⟩

/-- The findings of a drift run break no line but in the path. -/
theorem DriftRun.worded_of_mem {s : Surroundings} {c : DriftConfig} {run : DriftRun} {f : Finding}
    (done : ((ofConfig c).inside s).result = .ok run) (member : f ∈ run.verdict.findings) :
    f.Worded := by
  obtain ⟨_, _, targets, _, _, made, _, read, built⟩ := result_ok done
  obtain ⟨documents, _⟩ := Drift.Targets.read_ok read
  rw [built] at member
  obtain ⟨_, _, _, rule, _, _, atRule, _, rfl⟩ := (Drift.mem_findings_iff documents).mp member
  rw [(RuleSet.forDocs_eq_ok_iff.mp made).2] at atRule
  obtain ⟨ruleId, message⟩ := Rule.unbroken_of_mem_forDocs (List.mem_of_getElem? atRule)
  exact ⟨ruleId, message⟩

namespace Regression

/-- The identifiers of checks break no line. -/
theorem Check.unbroken_id (check : Check) : Unbroken check.id := by
  cases check <;> decide

/-- The figures of a regression break no line. -/
theorem unbroken_message (d : RegressionDetail) : Unbroken (message d) := by
  unfold message
  simp only [unbroken_append_iff, Number.unbroken_fixedText, and_true]
  decide

/-- The finding for a benchmark breaks no line but in the name. -/
theorem worded_of_finding? {t : Thresholds} {r : Results} {name : String} {b : Float} {f : Finding}
    (found : finding? t r name b = some f) : f.Worded := by
  unfold finding? at found
  split at found
  · cases found
    have message : Unbroken "missing benchmark result" := by decide
    exact ⟨Check.unbroken_id _, message⟩
  · split at found
    · cases found
      have message : Unbroken ("invalid baseline score: " ++ Number.plainText b) :=
        unbroken_append_iff.mpr ⟨by decide, Number.unbroken_plainText b⟩
      exact ⟨Check.unbroken_id _, message⟩
    · obtain ⟨d, _, rfl⟩ := Option.map_eq_some_iff.mp found
      exact ⟨Check.unbroken_id _, unbroken_message d⟩

end Regression

namespace Verdict

variable {s : Surroundings} {v : Verdict}

/-- The verdicts that the gates come to. -/
inductive Reached (s : Surroundings) : Verdict → Prop
  | docsDrift {c : DriftConfig} {run : DriftRun}
      (done : ((DriftRun.ofConfig c).inside s).result = .ok run) : Reached s run.verdict
  | benchRegression {c : RegressionConfig} {v : Verdict}
      (done : (Regression.run c).inside s = .ok v) : Reached s v

/-- The gates word their findings so that these break no line by themselves. -/
theorem Reached.worded (reached : v.Reached s) : ∀ f ∈ v.findings, f.Worded := by
  intro f member
  cases reached with
  | docsDrift done => exact DriftRun.worded_of_mem done member
  | benchRegression done =>
    obtain ⟨_, b, r, _, _, rfl⟩ := Regression.run_ok done
    obtain ⟨entry, _, found⟩ := List.mem_filterMap.mp member
    exact Regression.worded_of_finding? found

/-! ## Reports -/

/-- The first line of a report that failed. -/
def headLine (v : Verdict) : String :=
  v.gate.title ++ " failed:"

/-- The title is a line. -/
theorem linesOf_headLine (v : Verdict) : linesOf (v.headLine ++ "\n") = [v.headLine] := by
  unfold headLine
  cases v.gate <;> decide

/-- A report that failed has its head line and then the lines of its findings. -/
theorem linesOf_textReport (failed : v.passed = false) : linesOf v.textReport =
    v.headLine :: v.findings.flatMap fun f => linesOf (f.line ++ "\n") := by
  have whole : v.lines = v.headLine :: v.findings.map Finding.line := by
    unfold lines headLine
    rw [failed]
    rfl
  rw [textReport, Text.linesOf_join, whole, List.flatMap_cons, linesOf_headLine, List.flatMap_map]
  rfl

/-- Findings have a line each, and one more for every line feed in what they are about. -/
theorem length_flatMap_linesOf {findings : List Finding} (worded : ∀ f ∈ findings, f.Worded) :
    (findings.flatMap fun f => linesOf (f.line ++ "\n")).length =
      findings.length + (findings.map fun f => f.location.toList.count '\n').sum := by
  induction findings with
  | nil => rfl
  | cons f findings ih =>
    rw [List.forall_mem_cons] at worded
    rw [List.flatMap_cons, List.length_append, Text.length_linesOf_newline, worded.1.count_line,
      ih worded.2, List.length_cons, List.map_cons, List.sum_cons]
    omega

/-- A report that failed has its head line and then the lines of its findings, in order: one line
for each finding, and one more for every line feed in its location, which is the name of a benchmark
or the path of a file with a line number. So the lines behind the head line are what reports the
findings exactly when no location holds a line feed. -/
theorem failed_report_lines (reached : v.Reached s) (failed : v.passed = false) :
    linesOf v.textReport =
        v.headLine :: v.findings.flatMap (fun f => linesOf (f.line ++ "\n")) ∧
      (linesOf v.textReport).length =
        1 + v.findings.length + (v.findings.map fun f => f.location.toList.count '\n').sum ∧
      (linesOf v.textReport = v.headLine :: v.findings.map Finding.line ↔
        ∀ f ∈ v.findings, '\n' ∉ f.location.toList) := by
  have report := linesOf_textReport failed
  have length : (linesOf v.textReport).length =
      1 + v.findings.length + (v.findings.map fun f => f.location.toList.count '\n').sum := by
    rw [report, List.length_cons, length_flatMap_linesOf reached.worded]
    omega
  refine ⟨report, length, ?_, fun whole => ?_⟩
  · intro single f member newline
    rw [single, List.length_cons, List.length_map] at length
    have none : (v.findings.map fun f => f.location.toList.count '\n').sum = 0 := by omega
    have absent := List.sum_eq_zero_iff_forall_eq_nat.mp none _ (List.mem_map_of_mem member)
    exact List.count_eq_zero.mp absent newline
  · have single : ∀ f ∈ v.findings, linesOf (f.line ++ "\n") = [f.line] :=
      fun f member => (reached.worded f member).linesOf_line (whole f member)
    rw [report, List.flatMap_congr single, ← List.map_eq_flatMap]

/-- A project with a baseline and without any results. -/
def unmeasuredProject (baseline : String) : Surroundings where
  tree := ⟨[(["p", "baseline.json"], .file baseline.toUTF8),
    (["p", "results.json"], .file "[]".toUTF8)]⟩
  workingDirectory := ["p"]

/-- Where the name of a benchmark is plain, its finding has a line. -/
theorem plainName_reported :
    ∃ v, Reached (unmeasuredProject "\x7b\"a\": 1\x7d") v ∧ v.passed = false ∧
      linesOf v.textReport = v.headLine :: v.findings.map Finding.line := by
  have runs : ((Regression.run Regression.sampleConfig).inside
      (unmeasuredProject "\x7b\"a\": 1\x7d")).toOption.any (fun v => !v.passed &&
        v.findings.all fun f => decide ('\n' ∉ f.location.toList)) = true := by
    decide +kernel
  obtain ⟨v, done, found⟩ := Except.exists_of_any runs
  obtain ⟨failed, plain⟩ := Bool.and_eq_true_iff.mp found
  rw [Bool.not_eq_true'] at failed
  have whole : ∀ f ∈ v.findings, '\n' ∉ f.location.toList :=
    fun f member => of_decide_eq_true (List.all_eq_true.mp plain f member)
  have reached := Reached.benchRegression done
  exact ⟨v, reached, failed, (failed_report_lines reached failed).2.2.mpr whole⟩

/-- A line feed in the name of a benchmark goes into the report as it is, so the one finding has two
lines there. -/
theorem brokenName_adds_line : ¬ ∀ (s : Surroundings) (v : Verdict), v.Reached s →
    v.passed = false → (linesOf v.textReport).length = 1 + v.findings.length ∧
      linesOf v.textReport = v.headLine :: v.findings.map Finding.line := by
  intro single
  have runs : ((Regression.run Regression.sampleConfig).inside
      (unmeasuredProject "\x7b\"a\\nb\": 1\x7d")).toOption.any (fun v => !v.passed &&
        decide ((linesOf v.textReport).length ≠ 1 + v.findings.length)) = true := by
    decide +kernel
  obtain ⟨v, done, found⟩ := Except.exists_of_any runs
  obtain ⟨failed, more⟩ := Bool.and_eq_true_iff.mp found
  rw [Bool.not_eq_true'] at failed
  exact of_decide_eq_true more (single _ v (.benchRegression done) failed).1

end Verdict
end QualityGates
