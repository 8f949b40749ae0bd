import Mathlib.Data.List.Induction
import QualityGates.Config.Drift
import QualityGates.Proofs.Text.Blank

/-!
# Layers of a drift configuration

The version and the literals that a configuration ends up with are those of the highest layer that
gives any, where a blank version and an empty list are as good as none. A step says nothing about a
setting that it does not give, so the layers of a run of steps are what each of them gives, the last
one on top.
-/

namespace QualityGates

/-! ## The highest layer that gives something -/

/-- The version of the highest layer with one that is not blank, trimmed; the highest layer comes
first. -/
def firstVersion : (layers : List (Option String)) → Option String
  | [] => none
  | none :: lower => firstVersion lower
  | some version :: lower =>
    if version.toList.all Text.isBlank then firstVersion lower else some (Text.trimmed version)

/-- The literals of the highest layer with any; the highest layer comes first. -/
def firstLiterals : (layers : List (List String)) → List String
  | [] => []
  | [] :: lower => firstLiterals lower
  | literals :: _ => literals

/-- A layer gives its version, or else the lower ones give theirs. -/
theorem firstVersion_cons (layer : Option String) (lower : List (Option String)) :
    firstVersion (layer :: lower) = (layer.bind DriftConfig.notBlank).or (firstVersion lower) := by
  cases layer with
  | none => rfl
  | some version =>
    rw [firstVersion, Option.bind_some]
    unfold DriftConfig.notBlank
    dsimp only
    rw [Text.trimmed_isEmpty]
    cases version.toList.all Text.isBlank <;> rfl

/-- A layer gives its literals, or else the lower ones give theirs. -/
theorem firstLiterals_cons (layer : List String) (lower : List (List String)) :
    firstLiterals (layer :: lower) = if layer.isEmpty then firstLiterals lower else layer := by
  cases layer <;> rfl

/-! ## Steps -/

namespace DriftStep

/-- The version that a step gives. -/
def version? : DriftStep → Option String
  | fileSection s => s.baselineVersion
  | baselineOverride version => version
  | allowlist _ | staleVersions _ | manifest _ => none

/-- The literals that a step gives. -/
def literals : DriftStep → List String
  | fileSection s => s.staleVersions
  | staleVersions literals => literals
  | allowlist _ | baselineOverride _ | manifest _ => []

end DriftStep

namespace DriftConfig

variable (c : DriftConfig)

/-- A manifest is a setting of its own. -/
theorem setManifest_baselineOverride (path : Option Path) :
    (c.setManifest path).baselineOverride = c.baselineOverride := by
  cases path <;> rfl

/-- A manifest is a setting of its own. -/
theorem setManifest_staleVersions (path : Option Path) :
    (c.setManifest path).staleVersions = c.staleVersions := by
  cases path <;> rfl

/-- A version is taken over if it is not blank. -/
theorem setBaseline_baselineOverride (version : Option String) :
    (c.setBaseline version).baselineOverride =
      (version.bind notBlank).or c.baselineOverride :=
  rfl

/-- A version is a setting of its own. -/
theorem setBaseline_staleVersions (version : Option String) :
    (c.setBaseline version).staleVersions = c.staleVersions :=
  rfl

/-- Literals are a setting of their own. -/
theorem setLiterals_baselineOverride (literals : List String) :
    (c.setLiterals literals).baselineOverride = c.baselineOverride := by
  cases literals <;> rfl

/-- Literals are taken over if there are any. -/
theorem setLiterals_staleVersions (literals : List String) :
    (c.setLiterals literals).staleVersions =
      if literals.isEmpty then c.staleVersions else literals := by
  cases literals <;> rfl

/-- A step puts its version on top. -/
theorem step_baselineOverride (step : DriftStep) : (c.step step).baselineOverride =
    (step.version?.bind notBlank).or c.baselineOverride := by
  cases step with
  | fileSection s =>
    rw [DriftConfig.step, setLiterals_baselineOverride, setBaseline_baselineOverride,
      setManifest_baselineOverride]
    rfl
  | allowlist globs => rfl
  | baselineOverride version => rfl
  | staleVersions literals => exact c.setLiterals_baselineOverride literals
  | manifest path => exact c.setManifest_baselineOverride path

/-- A step puts its literals on top. -/
theorem step_staleVersions (step : DriftStep) : (c.step step).staleVersions =
    if step.literals.isEmpty then c.staleVersions else step.literals := by
  cases step with
  | fileSection s =>
    rw [DriftConfig.step, setLiterals_staleVersions, setBaseline_staleVersions,
      setManifest_staleVersions]
    rfl
  | allowlist globs => rfl
  | baselineOverride version => rfl
  | staleVersions literals => exact c.setLiterals_staleVersions literals
  | manifest path => exact c.setManifest_staleVersions path

variable (root : Path) (steps : List DriftStep)

/-- The configuration after one more step. -/
theorem ofSteps_concat (step : DriftStep) :
    ofSteps root (steps ++ [step]) = (ofSteps root steps).step step := by
  unfold ofSteps
  rw [List.foldl_append]
  rfl

/-- A configuration has the version of the last step that gives one. -/
theorem ofSteps_baselineOverride : (ofSteps root steps).baselineOverride =
    firstVersion (steps.reverse.map DriftStep.version?) := by
  induction steps using List.reverseRecOn with
  | nil => rfl
  | append_singleton steps step ih =>
    rw [ofSteps_concat, step_baselineOverride, ih, List.reverse_concat, List.map_cons,
      firstVersion_cons]

/-- A configuration has the literals of the last step that gives any. -/
theorem ofSteps_staleVersions : (ofSteps root steps).staleVersions =
    firstLiterals (steps.reverse.map DriftStep.literals) := by
  induction steps using List.reverseRecOn with
  | nil => rfl
  | append_singleton steps step ih =>
    rw [ofSteps_concat, step_staleVersions, ih, List.reverse_concat, List.map_cons,
      firstLiterals_cons]

end DriftConfig
end QualityGates
