import QualityGates.Yaml.Tokens

/-!
# The events of a YAML text

Tokens are read into the events of a walk through the first document: scalars, and the start and end
of sequences and mappings. Nodes that are left out are empty plain scalars. The walk ends at the end
of the document, or where the tokens do not fit.
-/

namespace QualityGates.Yaml

/-- What is said about a node in front of it. -/
structure NodeProperties where
  anchor : Option String := none
  tag : Option String := none
  deriving DecidableEq, Repr, Inhabited

/-- One step of the walk. -/
inductive Step where
  | alias (name : String)
  | scalar (properties : NodeProperties) (text : String) (style : Style)
  | openSequence (properties : NodeProperties)
  | openMapping (properties : NodeProperties)
  | closeSequence
  | closeMapping
  deriving DecidableEq, Repr, Inhabited

/-- What is expected next. -/
inductive Expected where
  | node (block dashes : Bool)
  | documentNode
  | blockElement
  | dashElement
  | blockKey
  | blockValue
  | firstElement
  | nextElement
  | pairKey
  | pairValue
  | pairEnd
  | firstKey
  | nextKey
  | flowValue
  | flowNothing
  deriving DecidableEq, Repr, Inhabited

/-- The tokens that are still to be read, with their places. -/
abbrev Tokens := List (Mark × Token)

/-- A move: the steps it makes, what it expects next, and the tokens it leaves. -/
structure Move where
  steps : List (Mark × Step)
  next : List Expected
  rest : Tokens

/-- A node that is left out. -/
def absent (mark : Mark) (next : List Expected) (rest : Tokens) : Option Move :=
  some ⟨[(mark, .scalar {} "" .plain)], next, rest⟩

/-- The starts of tags that handles stand for. -/
abbrev Handles := List (String × String)

/-- The handles that every document has. -/
def standardHandles : Handles :=
  [("!", "!"), ("!!", "tag:yaml.org,2002:")]

/-- The whole tag; none for an unknown handle. A lone exclamation mark says nothing. -/
def wholeTag (handles : Handles) (handle suffix : String) : Option String :=
  if handle.isEmpty then some suffix
  else (handles.lookup handle).map (fun start => start ++ suffix)

/-- Reads an anchor and a tag in either order, and where they start. -/
def readProperties (handles : Handles) (tokens : Tokens) : Option (NodeProperties × Tokens) :=
  match tokens with
  | (_, .anchor name) :: rest =>
    match rest with
    | (_, .tag handle suffix) :: rest =>
      (wholeTag handles handle suffix).map (fun tag => (⟨some name, some tag⟩, rest))
    | _ => some (⟨some name, none⟩, rest)
  | (_, .tag handle suffix) :: rest =>
    match rest with
    | (_, .anchor name) :: rest =>
      (wholeTag handles handle suffix).map (fun tag => (⟨some name, some tag⟩, rest))
    | _ => (wholeTag handles handle suffix).map (fun tag => (⟨none, some tag⟩, rest))
  | _ => some ({}, tokens)

/-- The properties of a scalar, for which a lone exclamation mark is no tag. -/
def NodeProperties.ofScalar (p : NodeProperties) : NodeProperties :=
  if p.tag = some "!" then { p with tag := none } else p

/-- Reads a node. Block collections are taken if `block` holds, and a sequence of dashes without
indentation if `dashes` holds. -/
def readNode (handles : Handles) (block dashes : Bool) (tokens : Tokens) : Option Move :=
  match tokens with
  | [] => none
  | (mark, .alias name) :: rest => some ⟨[(mark, .alias name)], [], rest⟩
  | (mark, _) :: _ =>
    match readProperties handles tokens with
    | none => none
    | some (properties, rest) =>
      let start (step : Step) (next : List Expected) (rest : Tokens) : Option Move :=
        some ⟨[(mark, step)], next, rest⟩
      match rest with
      | [] => none
      | (_, token) :: more =>
        match token with
        | .scalar text style => start (.scalar properties.ofScalar text style) [] more
        | .openSequence => start (.openSequence properties) [.firstElement] more
        | .openMapping => start (.openMapping properties) [.firstKey] more
        | .dash =>
          if dashes then start (.openSequence properties) [.dashElement] rest
          else if properties = {} then none
          else start (.scalar properties "" .plain) [] rest
        | .blockSequence =>
          if block then start (.openSequence properties) [.blockElement] more
          else if properties = {} then none
          else start (.scalar properties "" .plain) [] rest
        | .blockMapping =>
          if block then start (.openMapping properties) [.blockKey] more
          else if properties = {} then none
          else start (.scalar properties "" .plain) [] rest
        | _ =>
          if properties = {} then none
          else start (.scalar properties "" .plain) [] rest

/-- Whether a token ends a node of a block collection before it starts. -/
def endsBlockNode (dashes : Bool) : Token → Bool
  | .key => true
  | .value => true
  | .blockEnd => true
  | .dash => dashes
  | _ => false

/-- Makes a move. -/
def move (handles : Handles) (expected : Expected) (tokens : Tokens) : Option Move :=
  match expected, tokens with
  | _, [] => none
  | .node block dashes, _ => readNode handles block dashes tokens
  | .documentNode, (mark, token) :: _ =>
    match token with
    | .version _ _ => absent mark [] tokens
    | .tagHandle _ _ => absent mark [] tokens
    | .documentStart => absent mark [] tokens
    | .documentEnd => absent mark [] tokens
    | .streamEnd => absent mark [] tokens
    | _ => readNode handles true false tokens
  | .blockElement, (_, .dash) :: rest =>
    match rest with
    | [] => none
    | (mark, .dash) :: _ => absent mark [.blockElement] rest
    | (mark, .blockEnd) :: _ => absent mark [.blockElement] rest
    | _ => some ⟨[], [.node true false, .blockElement], rest⟩
  | .blockElement, (mark, .blockEnd) :: rest => some ⟨[(mark, .closeSequence)], [], rest⟩
  | .blockElement, _ => none
  | .dashElement, (_, .dash) :: rest =>
    match rest with
    | [] => none
    | (mark, token) :: _ =>
      if endsBlockNode true token then absent mark [.dashElement] rest
      else some ⟨[], [.node true false, .dashElement], rest⟩
  | .dashElement, (mark, _) :: _ => some ⟨[(mark, .closeSequence)], [], tokens⟩
  | .blockKey, (_, .key) :: rest =>
    match rest with
    | [] => none
    | (mark, token) :: _ =>
      if endsBlockNode false token then absent mark [.blockValue] rest
      else some ⟨[], [.node true true, .blockValue], rest⟩
  | .blockKey, (mark, .blockEnd) :: rest => some ⟨[(mark, .closeMapping)], [], rest⟩
  | .blockKey, _ => none
  | .blockValue, (_, .value) :: rest =>
    match rest with
    | [] => none
    | (mark, token) :: _ =>
      if endsBlockNode false token then absent mark [.blockKey] rest
      else some ⟨[], [.node true true, .blockKey], rest⟩
  | .blockValue, (mark, _) :: _ => absent mark [.blockKey] tokens
  | .firstElement, (mark, token) :: rest =>
    match token with
    | .closeSequence => some ⟨[(mark, .closeSequence)], [], rest⟩
    | .key => some ⟨[(mark, .openMapping {})], [.pairKey, .nextElement], rest⟩
    | _ => some ⟨[], [.node false false, .nextElement], tokens⟩
  | .nextElement, (mark, .closeSequence) :: rest => some ⟨[(mark, .closeSequence)], [], rest⟩
  | .nextElement, (_, .comma) :: rest =>
    if rest.isEmpty then none else some ⟨[], [.firstElement], rest⟩
  | .nextElement, _ => none
  | .pairKey, (mark, token) :: rest =>
    match token with
    | .value => absent mark [.pairValue] rest
    | .comma => absent mark [.pairValue] rest
    | .closeSequence => absent mark [.pairValue] rest
    | _ => some ⟨[], [.node false false, .pairValue], tokens⟩
  | .pairValue, (_, .value) :: rest =>
    match rest with
    | [] => none
    | (mark, .comma) :: _ => absent mark [.pairEnd] rest
    | (mark, .closeSequence) :: _ => absent mark [.pairEnd] rest
    | _ => some ⟨[], [.node false false, .pairEnd], rest⟩
  | .pairValue, (mark, _) :: _ => absent mark [.pairEnd] tokens
  | .pairEnd, (mark, _) :: _ => some ⟨[(mark, .closeMapping)], [], tokens⟩
  | .firstKey, (mark, token) :: rest =>
    match token with
    | .closeMapping => some ⟨[(mark, .closeMapping)], [], rest⟩
    | .key =>
      match rest with
      | [] => none
      | (mark, .value) :: _ => absent mark [.flowValue] rest
      | (mark, .comma) :: _ => absent mark [.flowValue] rest
      | (mark, .closeMapping) :: _ => absent mark [.flowValue] rest
      | _ => some ⟨[], [.node false false, .flowValue], rest⟩
    | _ => some ⟨[], [.node false false, .flowNothing], tokens⟩
  | .nextKey, (mark, .closeMapping) :: rest => some ⟨[(mark, .closeMapping)], [], rest⟩
  | .nextKey, (_, .comma) :: rest => if rest.isEmpty then none else some ⟨[], [.firstKey], rest⟩
  | .nextKey, _ => none
  | .flowValue, (_, .value) :: rest =>
    match rest with
    | [] => none
    | (mark, .comma) :: _ => absent mark [.nextKey] rest
    | (mark, .closeMapping) :: _ => absent mark [.nextKey] rest
    | _ => some ⟨[], [.node false false, .nextKey], rest⟩
  | .flowValue, (mark, _) :: _ => absent mark [.nextKey] tokens
  | .flowNothing, (mark, _) :: _ => absent mark [.nextKey] tokens

/-- Makes moves until nothing is expected; the result holds the steps, last one first, and the
tokens that are left if all moves could be made. -/
def walk (handles : Handles) : (fuel : Nat) → List (Mark × Step) → List Expected → Tokens →
    List (Mark × Step) × Option Tokens
  | _, steps, [], tokens => (steps, some tokens)
  | 0, steps, _ :: _, _ => (steps, none)
  | fuel + 1, steps, expected :: later, tokens =>
    match move handles expected tokens with
    | none => (steps, none)
    | some made => walk handles fuel (made.steps.reverse ++ steps) (made.next ++ later) made.rest

/-- Reads the directives in front of a document. -/
def readDirectives : (versioned : Bool) → Handles → Tokens → Option (Handles × Tokens)
  | versioned, handles, (_, .version major minor) :: rest =>
    if versioned || major ≠ 1 || (minor ≠ 1 ∧ minor ≠ 2) then none
    else readDirectives true handles rest
  | versioned, handles, (_, .tagHandle handle start) :: rest =>
    if (handles.lookup handle).isSome then none
    else readDirectives versioned ((handle, start) :: handles) rest
  | _, handles, tokens => some (handles ++ standardHandles, tokens)

/-- Whether nothing but ends of documents follows. -/
def endsStream : Tokens → Bool
  | [(_, .streamEnd)] => true
  | (_, .documentEnd) :: rest => endsStream rest
  | _ => false

/-- The steps of the first document, and whether the text holds no other one and is free of
faults. -/
def stepsOf (tokens : Tokens) : List (Mark × Step) × Bool :=
  let fuel := 8 * tokens.length + 8
  let finish : List (Mark × Step) × Option Tokens → List (Mark × Step) × Bool
    | (steps, some rest) => (steps.reverse, endsStream rest)
    | (steps, none) => (steps.reverse, false)
  match tokens with
  | [] => ([], false)
  | (_, .streamEnd) :: _ => ([], true)
  | (_, token) :: _ =>
    let directed :=
      match token with
      | .version _ _ => true
      | .tagHandle _ _ => true
      | .documentStart => true
      | _ => false
    if directed then
      match readDirectives false [] tokens with
      | some (handles, (_, .documentStart) :: rest) =>
        finish (walk handles fuel [] [.documentNode] rest)
      | _ => ([], false)
    else finish (walk standardHandles fuel [] [.node true false] tokens)

end QualityGates.Yaml
