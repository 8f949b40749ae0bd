/-!
# Globs

A glob is a list of tokens that is matched against the bytes of a path. `?` and a class take one
byte, which may be a separator; `*` takes any bytes. A double star that fills a whole component
takes any number of components, together with the separators around it.

`Glob.rests` gives what may remain of a path after a glob has taken its share; the glob matches
when nothing needs to remain.
-/

namespace QualityGates

/-- A part of a glob. -/
inductive GlobToken where
  | literal (c : Char)
  | anyByte
  | star
  /-- `**/` at the start: no component, or any number of them. -/
  | leadingComponents
  /-- `/**` at the end: a separator and everything below. -/
  | trailingComponents
  /-- `/**/` in the middle: a separator, or components between two separators. -/
  | innerComponents
  | class (negated : Bool) (ranges : List (Char × Char))
  | alternates (branches : List (List GlobToken))
  deriving Repr, Inhabited

/-- The tokens of a glob in order. -/
abbrev Glob := List GlobToken

namespace Glob

/-- The separator of path components. -/
def separator : UInt8 := 0x2F

/-- The bytes of a character. -/
def charBytes (c : Char) : List UInt8 :=
  (String.singleton c).toUTF8.data.toList

/-- What remains after a fixed run of bytes. -/
def afterBytes : List UInt8 → List UInt8 → Option (List UInt8)
  | [], rest => some rest
  | _ :: _, [] => none
  | b :: bytes, c :: rest => if b = c then afterBytes bytes rest else none

/-- Every suffix of a list, from the whole to the empty one. -/
def suffixes {α : Type} : List α → List (List α)
  | [] => [[]]
  | a :: rest => (a :: rest) :: suffixes rest

/-- Every suffix that follows a separator. -/
def afterSeparators : List UInt8 → List (List UInt8)
  | [] => []
  | b :: rest => if b = separator then rest :: afterSeparators rest else afterSeparators rest

/-- What remains after one separator at the front. -/
def afterSeparator : List UInt8 → List (List UInt8)
  | [] => []
  | b :: rest => if b = separator then [rest] else []

/-- The byte ranges that a range of characters stands for. The bytes of both ends belong to the
class one by one, and so do the bytes from the last one of the low end to the first one of the high
end. -/
def rangeContains (range : Char × Char) (b : UInt8) : Bool :=
  let low := charBytes range.1
  let high := charBytes range.2
  low.contains b ||
    (range.1 != range.2 &&
      (high.contains b ||
        (match low.getLast?, high.head? with
          | some first, some last => first ≤ b && b ≤ last
          | _, _ => false)))

/-- A list without repetitions. -/
def distinct {α : Type} [DecidableEq α] : List α → List α
  | [] => []
  | a :: rest => a :: (distinct rest).filter (fun b => b ≠ a)

mutual

/-- A token that stands for nothing: a group whose branches are all empty. -/
def isVoid : GlobToken → Bool
  | .alternates branches => areVoid branches
  | _ => false

/-- Branches that all stand for nothing. -/
def areVoid : List (List GlobToken) → Bool
  | [] => true
  | branch :: more => isVoidBranch branch && areVoid more

/-- A branch that stands for nothing. -/
def isVoidBranch : List GlobToken → Bool
  | [] => true
  | token :: more => isVoid token && isVoidBranch more

end

mutual

/-- What may remain after a token. -/
def tokenRests : GlobToken → List UInt8 → List (List UInt8)
  | .literal c, path => (afterBytes (charBytes c) path).toList
  | .anyByte, path => path.tail?.toList
  | .star, path => suffixes path
  | .leadingComponents, path => path :: afterSeparators path
  | .trailingComponents, path => (afterSeparator path).flatMap suffixes
  | .innerComponents, path =>
    (afterSeparator path).flatMap (fun rest => rest :: afterSeparators rest)
  | .class negated ranges, path =>
    match path with
    | b :: rest =>
      if (ranges.any (fun range => rangeContains range b)) != negated then [rest] else []
    | [] => []
  | .alternates branches, path => if areVoid branches then [path] else branchRests branches path

/-- What may remain after one of the branches; branches that stand for nothing are no choice. -/
def branchRests : List (List GlobToken) → List UInt8 → List (List UInt8)
  | [], _ => []
  | branch :: more, path =>
    (if isVoidBranch branch then [] else rests branch [path]) ++ branchRests more path

/-- What may remain of any of the paths after a list of tokens. -/
def rests : List GlobToken → List (List UInt8) → List (List UInt8)
  | [], paths => paths
  | token :: more, paths => rests more (distinct (paths.flatMap (tokenRests token)))

end

/-- Whether a glob is fixed text. -/
def isFixed (glob : Glob) : Bool :=
  glob.all (fun token => match token with | .literal _ => true | _ => false)

/-- Whether a glob ends in the character `.`. -/
def endsInDot (glob : Glob) : Bool :=
  match glob.getLast? with
  | some (.literal '.') => true
  | _ => false

/-- Whether a glob holds the separator as a character. -/
def hasSeparator (glob : Glob) : Bool :=
  glob.any (fun token => match token with | .literal '/' => true | _ => false)

/-- Whether a glob asks for the name of a file: the name itself below any directory, or the bare
extension `.` after something that is not fixed. A star before fixed text asks only for how a path
ends, unless that text is the bare extension. -/
def asksForName : Glob → Bool
  | [.star, .literal '.'] => true
  | [.leadingComponents, .star, .literal '.'] => true
  | .leadingComponents :: .star :: rest => endsInDot rest && !isFixed rest
  | .leadingComponents :: rest => if isFixed rest then !hasSeparator rest else endsInDot rest
  | .star :: rest => endsInDot rest && !isFixed rest
  | glob => endsInDot glob && !isFixed glob

/-- Whether the last component of a path is `..`, which is the name of no file. -/
def endsInParent (path : List UInt8) : Bool :=
  path.reverse.takeWhile (fun b => b != separator) == [0x2E, 0x2E]

/-- Whether a glob takes a whole path. A lone double star takes every path. -/
def matchesBytes (glob : Glob) (path : List UInt8) : Bool :=
  match glob with
  | [.leadingComponents] => true
  | _ => (rests glob [path]).contains [] && !(asksForName glob && endsInParent path)

/-- Whether a glob takes the path with this text. -/
def isMatch (glob : Glob) (path : String) : Bool :=
  glob.matchesBytes path.toUTF8.data.toList

end Glob
end QualityGates
