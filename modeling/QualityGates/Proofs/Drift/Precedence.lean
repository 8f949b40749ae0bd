import QualityGates.Proofs.Drift.Documents
import QualityGates.Proofs.Drift.Extension
import QualityGates.Proofs.FileTree.Missing
import QualityGates.Proofs.First
import QualityGates.Proofs.Release
import QualityGates.Proofs.Rule.Written

/-!
# Which error a run of the drift gate ends with

More than one thing can be wrong at once. A run ends with the error of the first stage that fails:
the version that is given, then the globs, then the literals, then the documents in their order. The
stages before the last one ask no document, so their errors are the same for all projects.
-/

namespace QualityGates

/-! ## Stages -/

/-- A version that is given and is one, or none at all, keeps no run from going on. -/
theorem Release.result_of_valid (s : Surroundings) {override : Option String} (manifest : Path)
    (valid : ∀ raw, override = some raw → Version.strict? (Text.trimmed raw) ≠ none) :
    ∃ baseline, ((resolve override manifest).inside s).result = .ok baseline := by
  unfold Lookup.inside
  cases override with
  | none =>
    rcases run_resolve_none s.answer manifest with ⟨version, same, _⟩ | ⟨warning, same, _⟩
    · exact ⟨some version, by rw [same]⟩
    · exact ⟨none, by rw [same]⟩
  | some raw =>
    obtain ⟨version, given⟩ := Option.ne_none_iff_exists'.mp (valid raw rfl)
    rw [run_resolve_some, ofOverride_ok_iff.mpr given]
    exact ⟨some version, rfl⟩

/-- A version that is given and is none is refused. -/
theorem Release.result_of_invalid (s : Surroundings) {raw : String} (manifest : Path)
    (invalid : Version.strict? (Text.trimmed raw) = none) :
    ((resolve (some raw) manifest).inside s).result = .error (.invalidVersionOverride raw) := by
  unfold Lookup.inside
  rw [run_resolve_some, ofOverride_error_iff.mpr ⟨invalid, rfl⟩]
  rfl

namespace Drift.Targets

variable {s : Surroundings} {l : Layout} {allowlist : Allowlist} {paths : List Path}

/-- Reading succeeds when every path that is kept leads to a text. -/
theorem read_of_readable
    (readable : ∀ path ∈ paths, passesOver l allowlist path = false → Readable s path) :
    ∃ targets, (read l allowlist paths).inside s = .ok targets := by
  induction paths with
  | nil => exact ⟨_, inside_read_nil⟩
  | cons path paths ih =>
    rw [List.forall_mem_cons] at readable
    obtain ⟨targets, rest⟩ := ih readable.2
    cases skipped : passesOver l allowlist path with
    | true =>
      rw [inside_read_passed skipped, rest]
      exact ⟨_, rfl⟩
    | false =>
      obtain ⟨text, found⟩ := Lookup.text_ok_iff.mpr (readable.1 skipped)
      rw [inside_read_kept skipped, found, rest]
      exact ⟨_, rfl⟩

/-- Reading ends at the first path that is kept and leads to no text. -/
theorem read_of_unreadable {before after : List Path} {path : Path} {fault : ReadFault}
    (readable : ∀ earlier ∈ before, passesOver l allowlist earlier = false → Readable s earlier)
    (kept : passesOver l allowlist path = false)
    (failed : (Lookup.text path).inside s = .error fault) :
    (read l allowlist (before ++ path :: after)).inside s =
      .error (GateError.ofReadFault path fault) := by
  induction before with
  | nil =>
    rw [List.nil_append, inside_read_kept kept, failed]
    rfl
  | cons first before ih =>
    rw [List.forall_mem_cons] at readable
    rw [List.cons_append]
    cases skipped : passesOver l allowlist first with
    | true =>
      rw [inside_read_passed skipped, ih readable.2]
      rfl
    | false =>
      obtain ⟨text, found⟩ := Lookup.text_ok_iff.mpr (readable.1 skipped)
      rw [inside_read_kept skipped, found, ih readable.2]
      rfl

end Drift.Targets

namespace DriftConfig

/-- A version that is given is one. -/
def ValidOverride (c : DriftConfig) : Prop :=
  ∀ raw, c.baselineOverride = some raw → Version.strict? (Text.trimmed raw) ≠ none

/-- A path stands in the way of a run: no glob takes it, and it does not lead to a text. -/
def Blocks (c : DriftConfig) (s : Surroundings) (path : Path) : Prop :=
  Allowlist.anyTakes c.allowlist (c.layout.relative path) = false ∧ ¬ Readable s path

end DriftConfig

namespace DriftRun

open Drift Allowlist

variable {s : Surroundings} {c : DriftConfig} {paths : List Path} {path : Path}
  {raw glob id : String} {fault : GlobFault}

/-- A version that is given and is none ends a run. -/
theorem result_of_invalid_override (given : c.baselineOverride = some raw)
    (invalid : Version.strict? (Text.trimmed raw) = none) :
    ((ofConfig c).inside s).result = .error (.invalidVersionOverride raw) := by
  have refused := Release.result_of_invalid s c.layout.manifest invalid
  rw [← given] at refused
  rw [inside_ofConfig]
  dsimp only
  rw [refused]
  rfl

/-- With a version that is one, a run with a list of globs that is rejected ends with its fault. -/
theorem result_of_invalid_globs (valid : c.ValidOverride)
    (rejected : Rejected c.allowlist glob fault) :
    ((ofConfig c).inside s).result = .error (.invalidGlob glob fault) := by
  obtain ⟨baseline, resolved⟩ := Release.result_of_valid s c.layout.manifest valid
  exact result_of_rejected resolved rejected

/-- With a version that is one and globs, a run with literals that are too large ends with those. -/
theorem result_of_invalid_literals (valid : c.ValidOverride) (accepted : Accepted c.allowlist)
    (large : ¬ Rule.SmallEnough c.staleVersions) :
    ((ofConfig c).inside s).result = .error (.invalidPattern Rule.staleVersionId) := by
  obtain ⟨baseline, resolved⟩ := Release.result_of_valid s c.layout.manifest valid
  exact result_of_tooLarge resolved accepted large

/-- The settings of a run are in order: the version, the globs and the literals. -/
structure InOrder (c : DriftConfig) : Prop where
  valid : c.ValidOverride
  accepted : Accepted c.allowlist
  small : Rule.SmallEnough c.staleVersions

/-- With settings in order, a run is decided by reading the documents. -/
theorem result_of_inOrder (inOrder : InOrder c)
    (found : (Targets.paths c.layout).inside s = .ok paths) :
    ∃ allowlist baseline, (∀ path, passesOver c.layout allowlist path =
        anyTakes c.allowlist (c.layout.relative path)) ∧
      ((ofConfig c).inside s).result = ((Targets.read c.layout allowlist paths).inside s).map
        (ofTargets baseline (Rule.forDocs baseline c.staleVersions)) := by
  obtain ⟨baseline, resolved⟩ := Release.result_of_valid s c.layout.manifest inOrder.valid
  obtain ⟨allowlist, listed, _, takes⟩ := Allowlist.ofPatterns_ok inOrder.accepted
  exact ⟨allowlist, baseline, fun path => takes _,
    result_of_found resolved listed (RuleSet.forDocs_of_smallEnough inOrder.small) found⟩

/-- With settings in order, a run ends with the error of the first path in its way. -/
theorem result_of_first_path (inOrder : InOrder c)
    (found : (Targets.paths c.layout).inside s = .ok paths)
    (first : IsFirst (c.Blocks s) paths path) :
    ∃ fault, (Lookup.text path).inside s = .error fault ∧
      ((ofConfig c).inside s).result = .error (GateError.ofReadFault path fault) := by
  obtain ⟨before, after, rfl, ⟨kept, unreadable⟩, clear⟩ := first
  obtain ⟨allowlist, baseline, passes, result⟩ := result_of_inOrder inOrder found
  have readable : ∀ earlier ∈ before, passesOver c.layout allowlist earlier = false →
      Readable s earlier := by
    intro earlier member keptEarlier
    rw [passes] at keptEarlier
    by_contra unread
    exact clear earlier member ⟨keptEarlier, unread⟩
  cases read : (Lookup.text path).inside s with
  | ok text => exact absurd (Lookup.text_ok_iff.mp ⟨text, read⟩) unreadable
  | error fault =>
    have failed : (Targets.read c.layout allowlist (before ++ path :: after)).inside s =
        .error (GateError.ofReadFault path fault) :=
      Targets.read_of_unreadable readable ((passes path).trans kept) read
    rw [result, failed]
    exact ⟨fault, rfl, rfl⟩

/-- With settings in order and no path in its way, a run succeeds. -/
theorem result_of_clear (inOrder : InOrder c)
    (found : (Targets.paths c.layout).inside s = .ok paths)
    (clear : ∀ path ∈ paths, ¬ c.Blocks s path) :
    ∃ run, ((ofConfig c).inside s).result = .ok run := by
  obtain ⟨allowlist, baseline, passes, result⟩ := result_of_inOrder inOrder found
  have readable : ∀ path ∈ paths, passesOver c.layout allowlist path = false →
      Readable s path := by
    intro path member kept
    rw [passes] at kept
    by_contra unread
    exact clear path member ⟨kept, unread⟩
  obtain ⟨targets, read⟩ := Targets.read_of_readable readable
  rw [result, read]
  exact ⟨_, rfl⟩

/-! ## How a run ends -/

/-- How a run with settings in order ends. -/
inductive EndsReading (s : Surroundings) (c : DriftConfig) (paths : List Path) : Prop where
  /-- It fails at the first path in its way. -/
  | failed (path : Path) (fault : ReadFault) (first : IsFirst (c.Blocks s) paths path)
    (unread : (Lookup.text path).inside s = .error fault)
    (result : ((ofConfig c).inside s).result = .error (GateError.ofReadFault path fault))
  /-- It succeeds, with no path in its way. -/
  | succeeded (run : DriftRun) (clear : ∀ path ∈ paths, ¬ c.Blocks s path)
    (result : ((ofConfig c).inside s).result = .ok run)

/-- How a run ends: with the error of the first stage that fails. -/
inductive Ends (s : Surroundings) (c : DriftConfig) (paths : List Path) : Prop where
  /-- The version that is given is none. -/
  | override (raw : String) (given : c.baselineOverride = some raw)
    (invalid : Version.strict? (Text.trimmed raw) = none)
    (result : ((ofConfig c).inside s).result = .error (.invalidVersionOverride raw))
  /-- The version is valid, and the list of globs is rejected. -/
  | glob (glob : String) (fault : GlobFault) (valid : c.ValidOverride)
    (rejected : Rejected c.allowlist glob fault)
    (result : ((ofConfig c).inside s).result = .error (.invalidGlob glob fault))
  /-- The version and the globs are valid, and the literals are too large. -/
  | pattern (valid : c.ValidOverride) (accepted : Accepted c.allowlist)
    (large : ¬ Rule.SmallEnough c.staleVersions)
    (result : ((ofConfig c).inside s).result = .error (.invalidPattern Rule.staleVersionId))
  /-- The settings are in order. -/
  | reading (inOrder : InOrder c) (ends : EndsReading s c paths)

/-- Every run ends in one of these ways. -/
theorem ends (found : (Targets.paths c.layout).inside s = .ok paths) : Ends s c paths := by
  -- The cases follow the stages, so that each stage has the ones before it behind it.
  by_cases valid : c.ValidOverride
  · rcases Allowlist.accepted_or_rejected c.allowlist with
      accepted | ⟨glob, fault, rejected⟩
    · by_cases small : Rule.SmallEnough c.staleVersions
      · have inOrder : InOrder c := ⟨valid, accepted, small⟩
        refine .reading inOrder ?_
        by_cases blocked : ∃ path ∈ paths, c.Blocks s path
        · obtain ⟨path, first⟩ := exists_isFirst blocked
          obtain ⟨fault, unread, result⟩ := result_of_first_path inOrder found first
          exact .failed path fault first unread result
        · have clear : ∀ path ∈ paths, ¬ c.Blocks s path :=
            fun path member blocks => blocked ⟨path, member, blocks⟩
          obtain ⟨run, result⟩ := result_of_clear inOrder found clear
          exact .succeeded run clear result
      · exact .pattern valid accepted small (result_of_invalid_literals valid accepted small)
    · exact .glob glob fault valid rejected (result_of_invalid_globs valid rejected)
  · have given : ∃ raw, c.baselineOverride = some raw ∧
        Version.strict? (Text.trimmed raw) = none := by
      simpa [DriftConfig.ValidOverride] using valid
    obtain ⟨raw, given, invalid⟩ := given
    exact .override raw given invalid (result_of_invalid_override given invalid)

end DriftRun
end QualityGates
