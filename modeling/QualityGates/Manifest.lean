import QualityGates.Text.Blank
import QualityGates.Text.Part
import QualityGates.Xml.Entity
import QualityGates.Xml.Reader

/-!
# Build manifests

A manifest is an XML document that declares the version of a project, either directly or as the
revision property that the version refers to. The version of a parent project does not count, nor
does a text that still holds a placeholder.
-/

namespace QualityGates.Manifest

/-- What has been read of a manifest: the names of the open elements, innermost first, and the last
texts that declare a version and a revision. -/
structure Progress where
  opened : List String := []
  version : Option String := none
  revision : Option String := none
  deriving DecidableEq, Repr, Inhabited

/-- The names of the open elements from the outermost one, joined by slashes. -/
def Progress.place (p : Progress) : String :=
  String.intercalate "/" p.opened.reverse

/-- Takes a text with its entities resolved. -/
def Progress.takeText (p : Progress) (text : String) : Progress :=
  if p.place = "project/version" then { p with version := some text }
  else if p.place = "project/properties/revision" then { p with revision := some text }
  else p

/-- Takes an event. -/
def Progress.take (p : Progress) : Xml.Event → Except Xml.Fault Progress
  | .opening tag => .ok { p with opened := tag.localName :: p.opened }
  | .closing => .ok { p with opened := p.opened.drop 1 }
  | .text cs =>
    match Xml.resolve cs with
    | .ok text => .ok (p.takeText (String.ofList (Text.trim text)))
    | .error fault => .error fault
  | _ => .ok p

/-- Takes events up to the first fault. -/
def Progress.takeAll (p : Progress) : List (Except Xml.Fault Xml.Event) → Except Xml.Fault Progress
  | [] => .ok p
  | .error fault :: _ => .error fault
  | .ok event :: rest =>
    match p.take event with
    | .ok p => p.takeAll rest
    | .error fault => .error fault

/-- Whether a text declares a version: it is not empty and holds no placeholder. -/
def isDeclared (text : String) : Bool :=
  !text.isEmpty && !Text.occursIn "$\x7b" text

/-- The version that a manifest declares, as it is written there. -/
def versionText? (document : String) : Except Xml.Fault (Option String) :=
  (Progress.takeAll {} (Xml.events document)).map (fun p =>
    (p.version.filter isDeclared).or (p.revision.filter isDeclared))

end QualityGates.Manifest
