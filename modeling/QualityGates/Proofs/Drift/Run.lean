import QualityGates.Drift.Run
import QualityGates.Proofs.Allowlist
import QualityGates.Proofs.Drift.Targets
import QualityGates.Proofs.Rule.Written

/-!
# Runs of the drift gate, stage by stage

A run resolves the release version, reads the allow-list, makes the rules, finds the paths of the
documents and reads those. `inside_ofConfig` and `inside_withBaseline` say what the stages pass on,
`result_ok` opens a run that comes to a verdict, and `result_of_rejected` and `result_of_tooLarge`
end one before any document is looked for.
-/

namespace QualityGates.DriftRun

variable {s : Surroundings} {c : DriftConfig} {baseline : Option Version}

/-- Once the version is known, globs are read before rules are made, those before paths are looked
for, and those before any document is read. -/
theorem inside_withBaseline :
    (withBaseline c baseline).inside s =
      (Allowlist.ofPatterns c.allowlist).bind fun allowlist =>
        (RuleSet.forDocs baseline c.staleVersions).bind fun rules =>
          ((Drift.Targets.paths c.layout).inside s).bind fun paths =>
            ((Drift.Targets.read c.layout allowlist paths).inside s).map
              (ofTargets baseline rules) := by
  unfold withBaseline
  cases Allowlist.ofPatterns c.allowlist with
  | error e => rfl
  | ok allowlist =>
    cases RuleSet.forDocs baseline c.staleVersions with
    | error e => rfl
    | ok rules =>
      show Lookup.inside s (_ >>= _) = Except.bind _ _
      rw [Lookup.inside_bind, Lookup.inside_pure, Drift.Targets.inside_load]
      cases (Drift.Targets.paths c.layout).inside s <;> rfl

/-- The version is resolved before anything else is done, and the warnings of a run are those that
came up on the way. -/
theorem inside_ofConfig : (ofConfig c).inside s =
    { warnings := ((Release.resolve c.baselineOverride c.layout.manifest).inside s).warnings
      result := ((Release.resolve c.baselineOverride c.layout.manifest).inside s).result.bind
        fun baseline => (withBaseline c baseline).inside s } := by
  unfold ofConfig
  rw [Lookup.inside_bind]
  cases ((Release.resolve c.baselineOverride c.layout.manifest).inside s).result with
  | error e => rfl
  | ok baseline =>
    show Lookup.inside s (_ >>= _) = _
    rw [Lookup.inside_bind]
    rfl

/-- A run that comes to a verdict went through every stage. -/
theorem result_ok {run : DriftRun} (done : ((ofConfig c).inside s).result = .ok run) :
    ∃ allowlist paths targets,
      ((Release.resolve c.baselineOverride c.layout.manifest).inside s).result =
          .ok run.baseline ∧
        Allowlist.ofPatterns c.allowlist = .ok allowlist ∧
        RuleSet.forDocs run.baseline c.staleVersions = .ok run.rules ∧
        (Drift.Targets.paths c.layout).inside s = .ok paths ∧
        (Drift.Targets.read c.layout allowlist paths).inside s = .ok targets ∧
        run = ofTargets run.baseline run.rules targets := by
  rw [inside_ofConfig, Except.bind_eq_ok_iff] at done
  obtain ⟨baseline, resolved, done⟩ := done
  rw [inside_withBaseline, Except.bind_eq_ok_iff] at done
  obtain ⟨allowlist, listed, done⟩ := done
  obtain ⟨rules, made, done⟩ := Except.bind_eq_ok_iff.mp done
  obtain ⟨paths, found, done⟩ := Except.bind_eq_ok_iff.mp done
  obtain ⟨targets, read, rfl⟩ := Except.map_eq_ok_iff.mp done
  exact ⟨allowlist, paths, targets, resolved, listed, made, found, read, rfl⟩

/-- Once the version is known, a run comes to what lies behind it. -/
theorem result_of_resolved
    (resolved : ((Release.resolve c.baselineOverride c.layout.manifest).inside s).result =
      .ok baseline) :
    ((ofConfig c).inside s).result = (withBaseline c baseline).inside s := by
  rw [inside_ofConfig]
  dsimp only
  rw [resolved]
  rfl

/-- A run with a version, globs, rules and paths comes to what reading the documents comes to. -/
theorem result_of_found {allowlist : Allowlist} {rules : List Rule} {paths : List Path}
    (resolved : ((Release.resolve c.baselineOverride c.layout.manifest).inside s).result =
      .ok baseline)
    (listed : Allowlist.ofPatterns c.allowlist = .ok allowlist)
    (made : RuleSet.forDocs baseline c.staleVersions = .ok rules)
    (found : (Drift.Targets.paths c.layout).inside s = .ok paths) :
    ((ofConfig c).inside s).result =
      ((Drift.Targets.read c.layout allowlist paths).inside s).map (ofTargets baseline rules) := by
  rw [result_of_resolved resolved, inside_withBaseline, listed, made, found]
  rfl

/-- Once the version is known, a list of globs that is rejected ends a run. -/
theorem result_of_rejected {glob : String} {fault : GlobFault}
    (resolved : ((Release.resolve c.baselineOverride c.layout.manifest).inside s).result =
      .ok baseline)
    (rejected : Allowlist.Rejected c.allowlist glob fault) :
    ((ofConfig c).inside s).result = .error (.invalidGlob glob fault) := by
  rw [result_of_resolved resolved, inside_withBaseline, Allowlist.ofPatterns_error rejected]
  rfl

/-- Behind globs that are accepted, literals that are too large end a run. -/
theorem result_of_tooLarge
    (resolved : ((Release.resolve c.baselineOverride c.layout.manifest).inside s).result =
      .ok baseline)
    (accepted : Allowlist.Accepted c.allowlist) (large : ¬ Rule.SmallEnough c.staleVersions) :
    ((ofConfig c).inside s).result = .error (.invalidPattern Rule.staleVersionId) := by
  obtain ⟨allowlist, listed, _⟩ := Allowlist.ofPatterns_ok accepted
  rw [result_of_resolved resolved, inside_withBaseline, listed, RuleSet.forDocs_of_tooLarge large]
  rfl

end QualityGates.DriftRun
