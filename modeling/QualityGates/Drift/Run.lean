import QualityGates.Config.Drift
import QualityGates.Drift.Evaluation
import QualityGates.Drift.Targets
import QualityGates.Release

/-!
# Running the drift gate

The release version is resolved, the allow-list is read and the rules are made before any document
is read; an error in one of these aborts the gate.
-/

namespace QualityGates

/-- A run of the drift gate. -/
structure DriftRun where
  /-- The version that documents were compared with. -/
  baseline : Option Version
  rules : List Rule
  /-- The documents that were passed over. -/
  allowlisted : List String
  verdict : Verdict
  deriving Inhabited

namespace DriftRun

/-- The run over documents that have been read. -/
def ofTargets (baseline : Option Version) (rules : List Rule) (t : Drift.Targets) : DriftRun where
  baseline := baseline
  rules := rules
  allowlisted := t.allowlisted
  verdict := .ofFindings .docsDrift t.documents.length (Drift.findings rules t.documents)

/-- Runs the gate once the version is known. -/
def withBaseline (c : DriftConfig) (baseline : Option Version) :
    Lookup (Except GateError DriftRun) :=
  match Allowlist.ofPatterns c.allowlist with
  | .error e => pure (.error e)
  | .ok allowlist =>
    match RuleSet.forDocs baseline c.staleVersions with
    | .error e => pure (.error e)
    | .ok rules => do
      let targets ← Drift.Targets.load c.layout allowlist
      return targets.map (ofTargets baseline rules)

/-- Runs the gate. -/
def ofConfig (c : DriftConfig) : Lookup (Warned DriftRun) := do
  let release ← Release.resolve c.baselineOverride c.layout.manifest
  match release.result with
  | .error e => return ⟨release.warnings, .error e⟩
  | .ok baseline => return ⟨release.warnings, ← withBaseline c baseline⟩

end DriftRun
end QualityGates
