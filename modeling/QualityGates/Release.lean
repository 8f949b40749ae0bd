import QualityGates.GateError
import QualityGates.Manifest
import QualityGates.Version

/-!
# The release version of a project

The drift gate compares documents with a version that is given, or else with the one that the build
manifest declares. A given version has to be one; a manifest that is of no use only leads to a
warning, and the gate goes without a version.
-/

namespace QualityGates

/-- Why the manifest is of no use. -/
inductive Warning where
  | unavailable (manifest : Path) (fault : ReadFault)
  | undeclared (manifest : Path)
  | notXml (manifest : Path) (fault : Xml.Fault)
  | notRelease (raw : String)
  deriving DecidableEq, Repr, Inhabited

namespace Warning

/-- What a warning says. -/
def message : Warning → String
  | unavailable _ _ => "manifest unavailable; skipping stale-version rule"
  | undeclared _ => "manifest declares no project version; skipping stale-version rule"
  | notXml _ _ => "manifest is not valid XML; skipping stale-version rule"
  | notRelease _ => "manifest version is not major.minor.patch; skipping stale-version rule"

/-- What a warning is about, by name. -/
def fields : Warning → List (String × String)
  | unavailable manifest fault => [("manifest", manifest.text), ("error", fault.message)]
  | undeclared manifest => [("manifest", manifest.text)]
  | notXml manifest fault => [("manifest", manifest.text), ("reason", fault.message)]
  | notRelease raw => [("raw", raw)]

end Warning

/-- A result together with the warnings that came up on the way to it. -/
structure Warned (α : Type) where
  warnings : List Warning
  result : Except GateError α

namespace Release

/-- The version that the text of a manifest leads to, or a warning. -/
def ofManifestText (manifest : Path) (text : String) : Except Warning Version :=
  match Manifest.versionText? text with
  | .error fault => .error (.notXml manifest fault)
  | .ok none => .error (.undeclared manifest)
  | .ok (some raw) =>
    match Version.lenient? raw with
    | some version => .ok version
    | none => .error (.notRelease raw)

/-- The version that a manifest leads to, or a warning. -/
def ofManifest (manifest : Path) (text : Except ReadFault String) : Except Warning Version :=
  match text with
  | .ok text => ofManifestText manifest text
  | .error fault => .error (.unavailable manifest fault)

/-- The version that is given. -/
def ofOverride (raw : String) : Except GateError Version :=
  match Version.strict? (Text.trimmed raw) with
  | some version => .ok version
  | none => .error (.invalidVersionOverride raw)

/-- The release version of a project, if it can be told. The manifest is read only if no version is
given. -/
def resolve (override : Option String) (manifest : Path) : Lookup (Warned (Option Version)) :=
  match override with
  | some raw => pure ⟨[], (ofOverride raw).map some⟩
  | none => do
    match ofManifest manifest (← Lookup.text manifest) with
    | .ok version => return ⟨[], .ok (some version)⟩
    | .error warning => return ⟨[warning], .ok none⟩

end Release
end QualityGates
