import QualityGates.Proofs.Drift.Findings
import QualityGates.Proofs.Json.Record
import QualityGates.Proofs.Report

/-!
# Structured reports are read back as verdicts

A structured report gives back the verdict that it was made from, but for the figures of
regressions: those may come back as other floats, and a figure that is not finite makes the whole
report unreadable.
-/

namespace QualityGates

open Json (Gives Fills)

/-- Whether all figures of a regression are finite. -/
structure RegressionDetail.IsFinite (d : RegressionDetail) : Prop where
  baseline : d.baseline.isFinite = true
  current : d.current.isFinite = true
  regression : d.regression.isFinite = true
  allowed : d.allowed.isFinite = true

/-- Whether two findings are the same but for the figures of a regression. -/
structure Finding.SameLine (f f' : Finding) : Prop where
  location : f'.location = f.location
  ruleId : f'.ruleId = f.ruleId
  message : f'.message = f.message
  detail : f'.detail.isSome = f.detail.isSome

/-- Whether the figures of all regressions that a verdict reports are finite. -/
def Verdict.FiniteFigures (v : Verdict) : Prop :=
  ∀ f ∈ v.findings, ∀ d, f.detail = some d → d.IsFinite

/-- Findings without figures are the same when their lines are. -/
theorem Finding.SameLine.eq {f f' : Finding} (same : f.SameLine f') (plain : f.detail = none) :
    f' = f := by
  obtain ⟨location, ruleId, message, detail⟩ := f
  obtain ⟨location', ruleId', message', detail'⟩ := f'
  obtain ⟨rfl, rfl, rfl, figures⟩ := same
  cases plain
  rw [Option.isSome_none, Option.isSome_eq_false_iff, Option.isNone_iff_eq_none] at figures
  exact congrArg _ figures

namespace StructuredReport

variable {depth : Nat}

/-- The figures of a regression are given back, as some figures, exactly if all are finite. -/
theorem exists_gives_detail (deep : 1 < depth) (d : RegressionDetail) : ∃ found,
    Gives (detailShape.reader depth) d.toJson found ∧ (found.isSome = true ↔ d.IsFinite) := by
  obtain ⟨b, baselineGives, baseline⟩ := Json.exists_gives_readFloat d.baseline
  obtain ⟨c, currentGives, current⟩ := Json.exists_gives_readFloat d.current
  obtain ⟨r, regressionGives, regression⟩ := Json.exists_gives_readFloat d.regression
  obtain ⟨a, allowedGives, allowed⟩ := Json.exists_gives_readFloat d.allowed
  have baselineField (fields : DetailFields) : Gives (detailShape.read "baseline" fields)
      (floatJson d.baseline) (b.map fun x => { fields with baseline := some x }) :=
    baselineGives.map fun _ => rfl
  have currentField (fields : DetailFields) : Gives (detailShape.read "current" fields)
      (floatJson d.current) (c.map fun x => { fields with current := some x }) :=
    currentGives.map fun _ => rfl
  have regressionField (fields : DetailFields) : Gives (detailShape.read "regression" fields)
      (floatJson d.regression) (r.map fun x => { fields with regression := some x }) :=
    regressionGives.map fun _ => rfl
  have allowedField (fields : DetailFields) : Gives (detailShape.read "allowed" fields)
      (floatJson d.allowed) (a.map fun x => { fields with allowed := some x }) :=
    allowedGives.map fun _ => rfl
  have finite : d.IsFinite ↔ b.isSome = true ∧ c.isSome = true ∧ r.isSome = true ∧
      a.isSome = true := by
    rw [baseline, current, regression, allowed]
    exact ⟨fun ⟨hb, hc, hr, ha⟩ => ⟨hb, hc, hr, ha⟩, fun ⟨hb, hc, hr, ha⟩ => ⟨hb, hc, hr, ha⟩⟩
  rw [finite]
  -- The first figure that is not finite decides, so the figures are told apart in their order.
  cases b with
  | none =>
    exact ⟨none, Json.gives_record deep (.refused rfl rfl (baselineField _)), by simp⟩
  | some x =>
    cases c with
    | none =>
      exact ⟨none, Json.gives_record deep (.taken rfl rfl (baselineField _)
        (.refused rfl rfl (currentField _))), by simp⟩
    | some y =>
      cases r with
      | none =>
        exact ⟨none, Json.gives_record deep (.taken rfl rfl (baselineField _)
          (.taken rfl rfl (currentField _) (.refused rfl rfl (regressionField _)))), by simp⟩
      | some z =>
        cases a with
        | none =>
          exact ⟨none, Json.gives_record deep (.taken rfl rfl (baselineField _)
            (.taken rfl rfl (currentField _) (.taken rfl rfl (regressionField _)
              (.refused rfl rfl (allowedField _))))), by simp⟩
        | some w =>
          exact ⟨some ⟨x, y, z, w⟩, Json.gives_record deep (.taken rfl rfl (baselineField _)
            (.taken rfl rfl (currentField _) (.taken rfl rfl (regressionField _)
              (.taken rfl rfl (allowedField _) (.done _))))), by simp⟩

/-- A finding is given back but for its figures, exactly if those are finite. -/
theorem exists_gives_finding (deep : 2 < depth) (f : Finding) : ∃ found,
    Gives ((findingShape depth).reader depth) f.toJson found ∧
      (found.isSome = true ↔ ∀ d, f.detail = some d → d.IsFinite) ∧
      ∀ f', found = some f' → f.SameLine f' := by
  obtain ⟨location, ruleId, message, detail⟩ := f
  have locationField (fields : FindingFields) : Gives ((findingShape depth).read "location" fields)
      (.string location) ((some location).map fun s => { fields with location := some s }) :=
    (Json.gives_readText "a string" location).map fun _ => rfl
  have ruleField (fields : FindingFields) : Gives ((findingShape depth).read "rule_id" fields)
      (.string ruleId) ((some ruleId).map fun s => { fields with ruleId := some s }) :=
    (Json.gives_readText "a string" ruleId).map fun _ => rfl
  have messageField (fields : FindingFields) : Gives ((findingShape depth).read "message" fields)
      (.string message) ((some message).map fun s => { fields with message := some s }) :=
    (Json.gives_readText "a string" message).map fun _ => rfl
  cases detail with
  | none =>
    refine ⟨some ⟨location, ruleId, message, none⟩, ?_, iff_of_true rfl nofun, ?_⟩
    · exact Json.gives_record (Nat.lt_of_succ_lt deep) (.taken rfl rfl (locationField _)
        (.taken rfl rfl (ruleField _) (.taken rfl rfl (messageField _) (.done _))))
    · rintro _ ⟨⟩
      exact ⟨rfl, rfl, rfl, rfl⟩
  | some d =>
    obtain ⟨found, gives, finite⟩ := exists_gives_detail (Nat.lt_sub_of_add_lt (b := 1) deep) d
    have detailField (fields : FindingFields) : Gives ((findingShape depth).read "detail" fields)
        d.toJson (found.map fun d' => { fields with detail := some (some d') }) := by
      have given : Gives ((findingShape depth).read "detail" fields) d.toJson
          ((found.map some).map fun d' => { fields with detail := some d' }) :=
        (Json.gives_readOptional gives).map fun _ => rfl
      rw [Option.map_map] at given
      exact given
    have figures : (found.isSome = true ↔ ∀ d', some d = some d' → d'.IsFinite) := by
      rw [finite]
      exact ⟨fun h _ same => Option.some.inj same ▸ h, fun h => h d rfl⟩
    cases found with
    | none =>
      exact ⟨none, Json.gives_record (Nat.lt_of_succ_lt deep) (.taken rfl rfl (locationField _)
        (.taken rfl rfl (ruleField _) (.taken rfl rfl (messageField _)
          (.refused rfl rfl (detailField _))))), figures, nofun⟩
    | some d' =>
      refine ⟨some ⟨location, ruleId, message, some d'⟩, ?_, figures, ?_⟩
      · exact Json.gives_record (Nat.lt_of_succ_lt deep) (.taken rfl rfl (locationField _)
          (.taken rfl rfl (ruleField _) (.taken rfl rfl (messageField _)
            (.taken rfl rfl (detailField _) (.done _)))))
      · rintro _ ⟨⟩
        exact ⟨rfl, rfl, rfl, rfl⟩

/-- Findings are given back but for their figures, exactly if all of those are finite. -/
theorem exists_gives_findings (deep : 2 < depth) (findings : List Finding) : ∃ founds,
    List.Forall₂ (Gives ((findingShape depth).reader depth)) (findings.map Finding.toJson) founds ∧
      ((founds.mapM id).isSome = true ↔ ∀ f ∈ findings, ∀ d, f.detail = some d → d.IsFinite) ∧
      ∀ findings', founds.mapM id = some findings' →
        List.Forall₂ Finding.SameLine findings findings' := by
  induction findings with
  | nil =>
    refine ⟨[], .nil, iff_of_true rfl nofun, ?_⟩
    rintro _ ⟨⟩
    exact .nil
  | cons f findings ih =>
    obtain ⟨found, gives, finite, same⟩ := exists_gives_finding deep f
    obtain ⟨founds, othersGive, othersFinite, othersSame⟩ := ih
    refine ⟨found :: founds, .cons gives othersGive, ?_, ?_⟩
    · rw [List.forall_mem_cons, ← finite, ← othersFinite, List.mapM_cons]
      cases found <;> cases founds.mapM id <;> simp
    · intro findings' all
      rw [List.mapM_cons] at all
      obtain ⟨f', here, all⟩ := Option.bind_eq_some_iff.mp all
      obtain ⟨others, there, built⟩ := Option.bind_eq_some_iff.mp all
      cases built
      exact .cons (same f' here) (othersSame others there)

/-- The name of a gate is the name of that gate alone. -/
theorem lookup_gates (gate : Gate) : gates.lookup gate.key = some gate := by
  cases gate <;> decide

/-- A verdict is given back with the findings that are. -/
theorem gives_verdict (v : Verdict) {founds : List (Option Finding)}
    (gives : List.Forall₂ (Gives ((findingShape 126).reader 126)) (v.findings.map Finding.toJson)
      founds) :
    Gives ((verdictShape Json.depthLimit).reader Json.depthLimit) v.toJson
      ((founds.mapM id).map fun findings =>
        { v with targetsExamined := v.count.toNat, findings }) := by
  have gateField (fields : VerdictFields) :
      Gives ((verdictShape Json.depthLimit).read "gate" fields)
      (.string v.gate.key) ((some v.gate).map fun gate => { fields with gate := some gate }) :=
    (Json.gives_readChoice (lookup_gates v.gate)).map fun _ => rfl
  have passedField (fields : VerdictFields) :
      Gives ((verdictShape Json.depthLimit).read "passed" fields)
        (.bool v.passed)
        ((some v.passed).map fun passed => { fields with passed := some passed }) :=
    (Json.gives_readBool v.passed).map fun _ => rfl
  have countField (fields : VerdictFields) :
      Gives ((verdictShape Json.depthLimit).read "targets_examined" fields)
        (.number (.word v.count))
        ((some v.count.toNat).map fun n => { fields with targetsExamined := some n }) :=
    (Json.gives_readCount v.count).map fun _ => rfl
  have listed : Gives (Json.readList 127 fun d => (findingShape d).reader d)
      (.array (v.findings.map Finding.toJson)) (founds.mapM id) :=
    Json.gives_readList (by decide) gives
  have findingsField (fields : VerdictFields) :
      Gives ((verdictShape Json.depthLimit).read "findings" fields)
        (.array (v.findings.map Finding.toJson))
        ((founds.mapM id).map fun findings => { fields with findings := some findings }) :=
    listed.map fun _ => rfl
  cases all : founds.mapM id with
  | none =>
    rw [all] at findingsField
    exact Json.gives_record (by decide) (.taken rfl rfl (gateField _)
      (.taken rfl rfl (passedField _) (.taken rfl rfl (countField _)
        (.refused rfl rfl (findingsField _)))))
  | some findings =>
    rw [all] at findingsField
    exact Json.gives_record (by decide) (.taken rfl rfl (gateField _)
      (.taken rfl rfl (passedField _) (.taken rfl rfl (countField _)
        (.taken rfl rfl (findingsField _) (.done _)))))

end StructuredReport

/-- A structured report is read back exactly if the figures of all regressions are finite, and then
as the same verdict but for those figures. -/
theorem Verdict.ofReport_jsonReport (v : Verdict) :
    ((∃ v', Verdict.ofReport v.jsonReport = .ok v') ↔ v.FiniteFigures) ∧
      ∀ v', Verdict.ofReport v.jsonReport = .ok v' →
        v'.gate = v.gate ∧ v'.passed = v.passed ∧ v'.targetsExamined = v.count.toNat ∧
          List.Forall₂ Finding.SameLine v.findings v'.findings := by
  obtain ⟨founds, gives, finite, same⟩ :=
    StructuredReport.exists_gives_findings (by decide : 2 < 126) v.findings
  have given := Json.readAll_pretty (StructuredReport.gives_verdict v gives)
  have read (v' : Verdict) : Verdict.ofReport v.jsonReport = .ok v' ↔ ∃ findings,
      founds.mapM id = some findings ∧
        { v with targetsExamined := v.count.toNat, findings } = v' := by
    rw [← Option.map_eq_some_iff, ← given, Except.toOption_eq_some_iff]
    rfl
  unfold Verdict.FiniteFigures
  rw [← finite, Option.isSome_iff_exists]
  constructor
  · exact ⟨fun ⟨v', done⟩ => ((read v').mp done).imp fun _ found => found.1,
      fun ⟨findings, found⟩ => ⟨_, (read _).mpr ⟨findings, found, rfl⟩⟩⟩
  · intro v' done
    obtain ⟨findings, found, rfl⟩ := (read v').mp done
    exact ⟨rfl, rfl, rfl, same findings found⟩

/-! ## Verdicts without figures -/

/-- Findings without figures are given back as they are. -/
theorem findings_eq_of_sameLine {findings findings' : List Finding}
    (same : List.Forall₂ Finding.SameLine findings findings')
    (plain : ∀ f ∈ findings, f.detail = none) : findings' = findings := by
  induction same with
  | nil => rfl
  | cons same _ ih =>
    rw [List.forall_mem_cons] at plain
    rw [same.eq plain.1, ih plain.2]

/-- A drift run reports no figures. -/
theorem DriftRun.findings_plain {s : Surroundings} {c : DriftConfig} {run : DriftRun}
    (done : ((DriftRun.ofConfig c).inside s).result = .ok run) :
    ∀ f ∈ run.verdict.findings, f.detail = none := by
  obtain ⟨_, _, targets, _, _, _, _, _, built⟩ := DriftRun.result_ok done
  intro f member
  rw [built] at member
  obtain ⟨document, _, member⟩ := List.mem_flatMap.mp member
  obtain ⟨line, _, member⟩ := List.mem_flatMap.mp member
  obtain ⟨rule, _, rfl⟩ := List.mem_map.mp member
  rfl

/-- A verdict whose findings have no figures is read back from its structured report as it is, and
every verdict of a drift run is one of those. -/
theorem plain_reports_read_back :
    (∀ v : Verdict, (∀ f ∈ v.findings, f.detail = none) → v.targetsExamined < 2 ^ 64 →
      Verdict.ofReport v.jsonReport = .ok v) ∧
    ∀ (s : Surroundings) (c : DriftConfig) (run : DriftRun),
      ((DriftRun.ofConfig c).inside s).result = .ok run →
        ∀ f ∈ run.verdict.findings, f.detail = none := by
  refine ⟨fun v plain word => ?_, fun s c run => DriftRun.findings_plain⟩
  obtain ⟨readable, kept⟩ := Verdict.ofReport_jsonReport v
  obtain ⟨v', read⟩ := readable.mpr fun f member d figures =>
    nomatch (plain f member).symm.trans figures
  obtain ⟨gate, passed, examined, same⟩ := kept v' read
  have findings := findings_eq_of_sameLine same plain
  have count : v.count.toNat = v.targetsExamined := UInt64.toNat_ofNat_of_lt' word
  rw [read]
  obtain ⟨gate', passed', examined', findings'⟩ := v'
  cases gate
  cases passed
  cases examined.trans count
  cases findings
  rfl

/-- A verdict with every kind of character that is escaped, and with a flag that does not fit its
findings. -/
def awkwardVerdict : Verdict where
  gate := .benchRegression
  passed := true
  targetsExamined := 18446744073709551615
  findings :=
    [⟨"docs/\"a\\b\".md:1", "line\nbreak\r\ttab", "\x00\x08\x0c\x1f\x7f é ∀ 😀", none⟩,
      ⟨"", "\\u0041", "\x7b\"detail\": null\x7d", none⟩]

/-- The awkward verdict is read back, and the sample run reports no figures. -/
theorem awkwardVerdict_read_back :
    ((∀ f ∈ awkwardVerdict.findings, f.detail = none) ∧
      awkwardVerdict.targetsExamined < 2 ^ 64 ∧
      Verdict.ofReport awkwardVerdict.jsonReport = .ok awkwardVerdict) ∧
    ∃ run, ((DriftRun.ofConfig DriftRun.sampleConfig).inside DriftRun.sampleProject).result =
        .ok run ∧ ∀ f ∈ run.verdict.findings, f.detail = none := by
  have plain : ∀ f ∈ awkwardVerdict.findings, f.detail = none := by
    simp [awkwardVerdict]
  have word : awkwardVerdict.targetsExamined < 2 ^ 64 := by decide
  obtain ⟨run, done⟩ := Except.exists_of_isOk DriftRun.sample_completes
  exact ⟨⟨plain, word, plain_reports_read_back.1 awkwardVerdict plain word⟩,
    run, done, plain_reports_read_back.2 _ _ run done⟩

end QualityGates
