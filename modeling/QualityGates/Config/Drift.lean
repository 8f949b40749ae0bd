import QualityGates.Config.File
import QualityGates.Layout

/-!
# The configuration of the drift gate

A configuration is built in steps, from the configuration file up to the command line. Globs add up
over the steps; of versions, literals and manifests the last one that is given counts, and blank or
empty ones are not given.
-/

namespace QualityGates

/-- What the drift gate is run with. -/
structure DriftConfig where
  layout : Layout
  allowlist : List String := []
  /-- The version to use in place of that of the manifest. -/
  baselineOverride : Option String := none
  /-- Literal versions to look for in place of those before the baseline. -/
  staleVersions : List String := []
  deriving Inhabited

/-- A step that adds to a configuration. -/
inductive DriftStep where
  | fileSection (s : DriftSection)
  | allowlist (globs : List String)
  | baselineOverride (version : Option String)
  | staleVersions (literals : List String)
  | manifest (path : Option Path)
  deriving Inhabited

namespace DriftConfig

/-- The trimmed text, unless it is blank. -/
def notBlank (s : String) : Option String :=
  let text := Text.trimmed s
  if text.isEmpty then none else some text

/-- The configuration of a project without any step. -/
def ofRoot (root : Path) : DriftConfig where
  layout := .ofRoot root

/-- Adds globs. -/
def addGlobs (c : DriftConfig) (globs : List String) : DriftConfig :=
  { c with allowlist := c.allowlist ++ globs }

/-- Takes over a version that is given and not blank. -/
def setBaseline (c : DriftConfig) (version : Option String) : DriftConfig :=
  { c with baselineOverride := (version.bind notBlank).or c.baselineOverride }

/-- Takes over literals if there are any. -/
def setLiterals (c : DriftConfig) (literals : List String) : DriftConfig :=
  if literals.isEmpty then c else { c with staleVersions := literals }

/-- Takes over a manifest that is given, as seen from the root. -/
def setManifest (c : DriftConfig) (path : Option Path) : DriftConfig :=
  match path with
  | some path => { c with layout := { c.layout with manifest := c.layout.root.join path } }
  | none => c

/-- Takes a step. -/
def step (c : DriftConfig) : DriftStep → DriftConfig
  | .fileSection s =>
    (((c.addGlobs s.allowlist).setManifest (s.manifest.map Path.mk)).setBaseline
      s.baselineVersion).setLiterals s.staleVersions
  | .allowlist globs => c.addGlobs globs
  | .baselineOverride version => c.setBaseline version
  | .staleVersions literals => c.setLiterals literals
  | .manifest path => c.setManifest path

/-- The configuration that steps lead to. -/
def ofSteps (root : Path) (steps : List DriftStep) : DriftConfig :=
  steps.foldl step (ofRoot root)

end DriftConfig
end QualityGates
