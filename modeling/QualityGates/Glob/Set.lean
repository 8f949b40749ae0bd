import QualityGates.Glob.Reader
import QualityGates.Pattern.Reader

/-!
# Sets of globs

The globs of a set are prepared together before they are matched. A glob that only compares text is
looked up. Every other one is compiled to a pattern: on its own if it ends in a fixed extension, and
else together with the other ones of the set. A set is refused when a pattern nests too deeply or
when patterns are too large, though each glob reads.

Nesting is counted as the matching library counts it. How large patterns are depends on their
compiled form, and is counted by the steps that stand in for it (`Pattern.sizeLimit`).
-/

namespace QualityGates.Glob

/-! ## Which globs are compiled -/

/-- Whether a character may stand behind the dot of an extension. -/
def isExtensionChar : GlobToken → Bool
  | .literal c => c != '.' && c != '/'
  | _ => false

/-- Whether a glob ends in a fixed extension. -/
def endsInExtension (glob : Glob) : Bool :=
  match glob.reverse.dropWhile isExtensionChar with
  | .literal '.' :: _ => true
  | _ => false

/-- Whether a glob is fixed text that tells how a path ends: neither empty nor a lone separator. -/
def isEnding : Glob → Bool
  | [] => false
  | [.literal '/'] => false
  | glob => isFixed glob

/-- Whether a glob only compares text: fixed text, alone, in front of a star or of components, or
behind them. -/
def comparesText : Glob → Bool
  | .leadingComponents :: .star :: rest => isEnding rest
  | .leadingComponents :: rest => !rest.isEmpty && isFixed rest
  | .star :: rest => isEnding rest
  | glob =>
    match glob.getLast? with
    | some (.literal _) | some .star | some .trailingComponents => isFixed glob.dropLast
    | _ => false

/-! ## What globs are compiled to -/

/-- The digits of a byte in hexadecimal. -/
def hexText (b : UInt8) : String :=
  let digit (n : Nat) : Char := "0123456789abcdef".toList.getD n '0'
  String.ofList [digit (b.toNat / 16), digit (b.toNat % 16)]

/-- A character in the text of a pattern over bytes. -/
def charText (c : Char) : String :=
  if c.toNat < 128 then String.ofList (Pattern.quoteChars [c])
  else String.join ((charBytes c).map (fun b => "\\x" ++ hexText b))

/-- A range of a class in the text of a pattern over bytes. -/
def rangeText (range : Char × Char) : String :=
  if range.1 = range.2 then charText range.1 else charText range.1 ++ "-" ++ charText range.2

mutual

/-- The text of the pattern for a token. -/
def tokenText : GlobToken → String
  | .literal c => charText c
  | .anyByte => "."
  | .star => ".*"
  | .leadingComponents => "(?:/?|.*/)"
  | .trailingComponents => "/.*"
  | .innerComponents => "(?:/|/.*/)"
  | .class negated ranges =>
    "[" ++ (if negated then "^" else "") ++ String.join (ranges.map rangeText) ++ "]"
  | .alternates branches =>
    if areVoid branches then "" else "(?:" ++ String.intercalate "|" (branchTexts branches) ++ ")"

/-- The texts of the patterns for branches; branches that stand for nothing are left out. -/
def branchTexts : List (List GlobToken) → List String
  | [] => []
  | branch :: more =>
    if isVoidBranch branch then branchTexts more else tokensText branch :: branchTexts more

/-- The text of the pattern for tokens one after the other. -/
def tokensText : List GlobToken → String
  | [] => ""
  | token :: more => tokenText token ++ tokensText more

end

/-- The text of the pattern for a glob. -/
def patternText (glob : Glob) : String :=
  match glob with
  | [.leadingComponents] => "(?-u).*$"
  | _ => "(?-u)^" ++ tokensText glob ++ "$"

/-- The total of some sizes. -/
def total : List Nat → Nat
  | [] => 0
  | size :: more => size + total more

/-- What is measured of a part of a pattern. -/
structure Extent where
  /-- How many things stand side by side. -/
  width : Nat := 0
  /-- How many levels of nesting these things have. -/
  depth : Nat := 0
  /-- How many steps they take. -/
  steps : Nat := 0
  /-- Whether they are text. -/
  isText : Bool := true
  deriving DecidableEq, Repr, Inhabited

namespace Extent

/-- Two parts side by side. -/
def beside (a b : Extent) : Extent where
  width := a.width + b.width
  depth := max a.depth b.depth
  steps := a.steps + b.steps
  isText := a.isText && b.isText

/-- The levels of an alternative: several things side by side are a level of their own. -/
def levels (e : Extent) : Nat :=
  if 1 < e.width then e.depth + 1 else e.depth

/-- A group of alternatives. Several alternatives are a level of their own besides the group. -/
def group : List Extent → Extent
  | [] => {}
  | [e] => ⟨1, e.levels + 1, e.steps + 1, e.isText⟩
  | alternatives =>
    { width := 1
      depth := (alternatives.map levels).foldr max 0 + 2
      steps := Pattern.choiceSize (alternatives.all isText) alternatives.length
        (total (alternatives.map steps)) + 1
      isText := false }

end Extent

/-- How many things a range of a class is: a byte range, and the other bytes of both ends. -/
def rangeWidth (range : Char × Char) : Nat :=
  if range.1 = range.2 then range.1.utf8Size else range.1.utf8Size + range.2.utf8Size - 1

mutual

/-- The extent of the pattern for a token. -/
def tokenExtent : GlobToken → Extent
  | .literal c => ⟨c.utf8Size, 0, c.utf8Size, true⟩
  | .anyByte => ⟨1, 0, 1, false⟩
  | .star => ⟨1, 1, 2, false⟩
  | .leadingComponents => ⟨1, 4, 8, false⟩
  | .trailingComponents => ⟨2, 1, 3, false⟩
  | .innerComponents => ⟨1, 4, 8, false⟩
  | .class _ ranges =>
    ⟨1, if 1 < total (ranges.map rangeWidth) then 2 else 1, ranges.length + 1, false⟩
  | .alternates branches => Extent.group (branchExtents branches)

/-- The extents of the patterns for branches; branches that stand for nothing are left out. -/
def branchExtents : List (List GlobToken) → List Extent
  | [] => []
  | branch :: more =>
    if isVoidBranch branch then branchExtents more else tokensExtent branch :: branchExtents more

/-- The extent of the pattern for tokens one after the other. -/
def tokensExtent : List GlobToken → Extent
  | [] => {}
  | token :: more => (tokenExtent token).beside (tokensExtent more)

end

/-- How many levels of nesting the pattern for a glob has. Its ends stand beside its tokens, so that
the whole is a level. -/
def depth (glob : Glob) : Nat :=
  (tokensExtent glob).depth + 1

/-- How many steps the pattern for a glob takes, with its ends. -/
def size (glob : Glob) : Nat :=
  (tokensExtent glob).steps + 4

/-! ## Faults of sets -/

/-- The most levels of nesting that a pattern may have. -/
def depthLimit : Nat := 250

/-- Why the pattern of a glob cannot be compiled on its own. -/
def ownFault? (glob : Glob) : Option GlobFault :=
  if depthLimit < depth glob then some (.tooDeep (some (patternText glob)) 0)
  else if Pattern.sizeLimit < size glob then some (.tooLarge (some (patternText glob)))
  else none

/-- Why the patterns of some globs cannot be compiled together. The first one that nests too deeply
is told by its place. -/
def jointFault? (globs : List Glob) : Option GlobFault :=
  match globs.findIdx? (fun glob => depthLimit < depth glob) with
  | some place => some (.tooDeep none place)
  | none => if Pattern.sizeLimit < total (globs.map size) then some (.tooLarge none) else none

/-- The globs that are compiled, divided into those that end in an extension and the other ones. -/
def compiled (globs : List Glob) : List Glob × List Glob :=
  (globs.filter (fun glob => !comparesText glob)).partition endsInExtension

/-- Why globs make no set. Those that end in an extension come first. -/
def setFault? (globs : List Glob) : Option GlobFault :=
  ((compiled globs).1.findSome? ownFault?).or (jointFault? (compiled globs).2)

end QualityGates.Glob
