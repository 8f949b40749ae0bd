import QualityGates.Coverage.Class
import QualityGates.GateError
import QualityGates.Number.Digits
import QualityGates.Text.Blank
import QualityGates.Xml.Attribute
import QualityGates.Xml.Reader

/-!
# Coverage reports

A coverage report is an XML document with packages, classes inside them, and counters inside
classes. A class counts with its first line counter, or else with its first instruction counter; a
class with neither is left out, and so are counters anywhere else.
-/

namespace QualityGates.Coverage

/-- Missed and covered counts. -/
structure Count where
  missed : UInt64
  covered : UInt64
  deriving DecidableEq, Repr, Inhabited

/-- The counters of a class. -/
structure Counters where
  line : Option Count := none
  instruction : Option Count := none
  deriving DecidableEq, Repr, Inhabited

/-- What has been read of a report: the names of the open elements, innermost first, the class that
is open, and the classes that are finished, last one first. -/
structure Progress where
  opened : List String := []
  current : Option (String × Counters) := none
  classes : List ClassCoverage := []
  deriving Inhabited

/-- The value of an attribute. -/
def attribute? (tag : Xml.Tag) (key : String) : Except CoverageFault (Option String) :=
  (tag.attribute? key).mapError .markup

/-- The count in an attribute of a counter. -/
def readCount (tag : Xml.Tag) (kind key : String) : Except CoverageFault UInt64 :=
  match attribute? tag key with
  | .error fault => .error fault
  | .ok none => .error (.missingCount kind key)
  | .ok (some raw) =>
    match Number.readPlusWord (Text.trim raw.toList) with
    | some n => .ok n
    | none => .error (.badCount kind key raw)

/-- The counts of a counter, unless they are known already. -/
def fillCount (tag : Xml.Tag) (kind : String) (known : Option Count) :
    Except CoverageFault (Option Count) :=
  match known with
  | some count => .ok (some count)
  | none =>
    match readCount tag kind "missed" with
    | .error fault => .error fault
    | .ok missed =>
      match readCount tag kind "covered" with
      | .error fault => .error fault
      | .ok covered => .ok (some ⟨missed, covered⟩)

/-- Takes a counter of a class. -/
def Counters.take (c : Counters) (tag : Xml.Tag) : Except CoverageFault Counters :=
  match attribute? tag "type" with
  | .error fault => .error fault
  | .ok kind =>
    match kind with
    | some "LINE" => (fillCount tag "LINE" c.line).map (fun line => { c with line })
    | some "INSTRUCTION" =>
      (fillCount tag "INSTRUCTION" c.instruction).map (fun instruction => { c with instruction })
    | _ => .ok c

/-- The dotted name of a class. -/
def dottedName (name : String) : String :=
  String.ofList (name.toList.map (fun c => if c = '/' then '.' else c))

/-- Takes a tag that opens an element. -/
def Progress.takeTag (p : Progress) (tag : Xml.Tag) : Except CoverageFault Progress :=
  match tag.localName, p.opened.head? with
  | "class", some "package" =>
    match attribute? tag "name" with
    | .error fault => .error fault
    | .ok none => .error .unnamedClass
    | .ok (some name) => .ok { p with current := some (dottedName name, {}) }
  | "counter", some "class" =>
    match p.current with
    | none => .ok p
    | some (name, counters) =>
      (counters.take tag).map (fun counters => { p with current := some (name, counters) })
  | _, _ => .ok p

/-- The coverage of a class with some counters. -/
def classOf? (name : String) (c : Counters) : Option ClassCoverage :=
  (c.line.or c.instruction).map (fun n => ClassCoverage.ofCounts name n.missed n.covered)

/-- Takes a closing tag. -/
def Progress.takeClosing (p : Progress) : Progress :=
  let outer := { p with opened := p.opened.drop 1 }
  match p.opened.head?, p.current with
  | some "class", some (name, counters) =>
    { outer with
      current := none
      classes := (classOf? name counters).toList ++ p.classes }
  | _, _ => outer

/-- Takes an event. -/
def Progress.take (p : Progress) : Xml.Event → Except CoverageFault Progress
  | .opening tag => (p.takeTag tag).map (fun p => { p with opened := tag.localName :: p.opened })
  | .single tag =>
    (p.takeTag tag).map (fun p =>
      if tag.localName = "class" then { p with current := none } else p)
  | .closing => .ok p.takeClosing
  | _ => .ok p

/-- Takes events up to the first fault. -/
def Progress.takeAll (p : Progress) :
    List (Except Xml.Fault Xml.Event) → Except CoverageFault Progress
  | [] => .ok p
  | .error fault :: _ => .error (.markup fault)
  | .ok event :: rest =>
    match p.take event with
    | .ok p => p.takeAll rest
    | .error fault => .error fault

/-- The classes of a report in the order of the document; the path is only named in errors. -/
def classesOf (path : Path) (text : String) : Except GateError (List ClassCoverage) :=
  match Progress.takeAll {} (Xml.events text) with
  | .ok p => .ok p.classes.reverse
  | .error fault => .error (.malformedCoverage path fault)

end QualityGates.Coverage
