import QualityGates.Yaml.Steps

/-!
# YAML documents

The first document of a text as a list of events, in which an alias refers to the place of the node
with its anchor. An anchor is numbered by the count of different names that were in use before it,
so a name that is used twice can share its number with a later name.
-/

namespace QualityGates.Yaml

/-- One event of a document. -/
inductive Event where
  | alias (anchor : Nat)
  | scalar (text : String) (tag : Option String) (style : Style)
  | openSequence
  | openMapping
  | closeSequence
  | closeMapping
  /-- The only event of a text without a document. -/
  | nothing
  deriving DecidableEq, Repr, Inhabited

/-- Events with their places. -/
abbrev Events := List (Mark × Event)

/-- The first document of a text. -/
structure Document where
  events : Events
  /-- The places of the anchors by number, last one first. -/
  anchors : List (Nat × Nat)
  /-- Whether the text holds nothing but this document, without a fault. -/
  whole : Bool
  deriving Inhabited

/-- The anchors that have been read: their numbers by name, and their places by number. -/
structure Anchors where
  numbers : List (String × Nat) := []
  count : Nat := 0
  places : List (Nat × Nat) := []

/-- Notes the anchor of the event at a place. -/
def Anchors.note (a : Anchors) (anchor : Option String) (place : Nat) : Anchors :=
  match anchor with
  | none => a
  | some name =>
    { numbers := (name, a.count) :: a.numbers
      count := if (a.numbers.lookup name).isSome then a.count else a.count + 1
      places := (a.count, place) :: a.places }

/-- Turns steps into events; stops in front of an alias without an anchor. -/
def numberAnchors (a : Anchors) (place : Nat) : List (Mark × Step) → Events × Anchors × Bool
  | [] => ([], a, true)
  | (mark, step) :: rest =>
    let go (event : Event) (a : Anchors) : Events × Anchors × Bool :=
      let (events, anchors, known) := numberAnchors a (place + 1) rest
      ((mark, event) :: events, anchors, known)
    match step with
    | .alias name =>
      match a.numbers.lookup name with
      | some number => go (.alias number) a
      | none => ([], a, false)
    | .scalar p text style => go (.scalar text p.tag style) (a.note p.anchor place)
    | .openSequence p => go .openSequence (a.note p.anchor place)
    | .openMapping p => go .openMapping (a.note p.anchor place)
    | .closeSequence => go .closeSequence a
    | .closeMapping => go .closeMapping a

/-- Reads the first document of a text. -/
def Document.ofText (s : String) : Document :=
  let (steps, whole) := stepsOf (tokens s.toList)
  let (events, anchors, known) := numberAnchors {} 0 steps
  { events := if events.isEmpty && whole then [(⟨0, 0, 0⟩, .nothing)] else events
    anchors := anchors.places
    whole := whole && known }

/-- The events that a value starts with, and what follows it if it is an alias. -/
def Document.follow (d : Document) (events : Events) : Events × Option Events :=
  match events with
  | (_, .alias number) :: rest =>
    match d.anchors.lookup number with
    | some place => (d.events.drop place, some rest)
    | none => (events, some rest)
  | _ => (events, none)

end QualityGates.Yaml
