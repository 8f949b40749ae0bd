import QualityGates.Glob.Basic
import QualityGates.Number.Digits

/-!
# Reading globs

`*`, `?`, `[…]`, `{…,…}` and `\` have a meaning of their own, and a comma has one inside braces.
Groups nest. A double star counts as components only where it fills a component; elsewhere it is
two stars.
-/

namespace QualityGates

/-- Why a text is no glob, or why globs make no set. The pattern that a glob is compiled to stands
among those of its set, or on its own, and then its text is told. -/
inductive GlobFault where
  | unclosedClass
  | invalidRange (low high : Char)
  | unopenedAlternates
  | unclosedAlternates
  | danglingEscape
  /-- The pattern at a place nests too deeply. -/
  | tooDeep (own : Option String) (place : Nat)
  /-- The patterns are too large together. -/
  | tooLarge (own : Option String)
  deriving DecidableEq, Repr

/-- What is wrong. -/
def GlobFault.message : GlobFault → String
  | unclosedClass => "unclosed character class; missing ']'"
  | invalidRange low high =>
    "invalid range; '" ++ String.singleton low ++ "' > '" ++ String.singleton high ++ "'"
  | unopenedAlternates =>
    "unopened alternate group; missing '\x7b' (maybe escape '\x7d' with '[\x7d]'?)"
  | unclosedAlternates =>
    "unclosed alternate group; missing '\x7d' (maybe escape '\x7b' with '[\x7b]'?)"
  | danglingEscape => "dangling '\\'"
  | tooDeep _ place => "error parsing pattern " ++ Number.natText place
  | tooLarge _ => "error building NFA"

/-- What is wrong, and with what: with a glob, with the pattern that it is compiled to, or with all
patterns of a set. -/
def GlobFault.report (glob : String) (fault : GlobFault) : String :=
  let about (subject : String) : String :=
    "error parsing glob '" ++ subject ++ "': " ++ fault.message
  match fault with
  | tooDeep own _ | tooLarge own => (own.map about).getD fault.message
  | _ => about glob

namespace Glob

/-- An open group: its finished branches and the tokens before it, last one first. -/
structure OpenGroup where
  branches : List (List GlobToken)
  before : List GlobToken

/-- What has been read: the tokens of the current branch, last one first, and the groups around
it, innermost first. -/
structure Progress where
  current : List GlobToken := []
  groups : List OpenGroup := []

/-- Adds a token to the current branch. -/
def Progress.push (p : Progress) (t : GlobToken) : Progress :=
  { p with current := t :: p.current }

/-- Adds two plain stars. -/
def Progress.pushTwoStars (p : Progress) : Progress :=
  (p.push .star).push .star

/-- Replaces the last token by a double star; one that already stands for components stays. -/
def Progress.pushComponents (p : Progress) (t : GlobToken) : Progress :=
  match p.current with
  | .leadingComponents :: _ => p
  | .trailingComponents :: _ => p
  | _ :: before => { p with current := t :: before }
  | [] => p.push t

/-- Starts a group. -/
def Progress.open (p : Progress) : Progress :=
  { current := [], groups := ⟨[], p.current⟩ :: p.groups }

/-- Starts the next branch, or takes the comma as it is outside of groups. -/
def Progress.comma (p : Progress) : Progress :=
  match p.groups with
  | group :: outer =>
    { current := [], groups := ⟨group.branches ++ [p.current.reverse], group.before⟩ :: outer }
  | [] => p.push (.literal ',')

/-- Ends a group. -/
def Progress.close (p : Progress) : Except GlobFault Progress :=
  match p.groups with
  | group :: outer =>
    .ok
      { current := .alternates (group.branches ++ [p.current.reverse]) :: group.before
        groups := outer }
  | [] => .error .unopenedAlternates

/-- Whether a double star after this character may fill a component. -/
def Progress.startsComponent (p : Progress) (previous : Option Char) : Bool :=
  previous == some '/' || (!p.groups.isEmpty && (previous == some ',' || previous == some '\x7b'))

/-- What the next character belongs to. -/
inductive Mode where
  | plain
  | escaped
  | classStart
  | classBody (negated first inRange : Bool) (ranges : List (Char × Char))

/-- Ends the last range of a class at a character. -/
def closeRange (ranges : List (Char × Char)) (c : Char) : Except GlobFault (List (Char × Char)) :=
  match ranges with
  | (low, _) :: before => if c < low then .error (.invalidRange low c) else .ok ((low, c) :: before)
  | [] => .ok [(c, c)]

/-- Reads one character of a class; the ranges come last one first. -/
def readClassChar (p : Progress) (negated first inRange : Bool) (ranges : List (Char × Char))
    (c : Char) : Except GlobFault (Progress × Mode) := do
  if c = ']' && !first then
    let ranges := if inRange then ('-', '-') :: ranges else ranges
    return (p.push (.class negated ranges.reverse), .plain)
  else if c = '-' && !first && !inRange then
    return (p, .classBody negated false true ranges)
  else if inRange then
    return (p, .classBody negated false false (← closeRange ranges c))
  else
    return (p, .classBody negated false false ((c, c) :: ranges))

/-- Reads a glob from a state; `previous` is the character read last. -/
def read (p : Progress) (previous : Option Char) : Mode → List Char → Except GlobFault Glob
  | .plain, [] => if p.groups.isEmpty then .ok p.current.reverse else .error .unclosedAlternates
  | .plain, '*' :: '*' :: rest =>
    if p.current.isEmpty then
      match rest with
      | [] => read (p.push .leadingComponents) (some '*') .plain []
      | '/' :: rest => read (p.push .leadingComponents) (some '/') .plain rest
      | c :: rest => read p.pushTwoStars (some '*') .plain (c :: rest)
    else if p.startsComponent previous then
      match rest with
      | [] => read (p.pushComponents .trailingComponents) (some '*') .plain []
      | '/' :: rest => read (p.pushComponents .innerComponents) (some '/') .plain rest
      | c :: rest =>
        if (c == ',' || c == '\x7d') && !p.groups.isEmpty then
          read (p.pushComponents .trailingComponents) (some '*') .plain (c :: rest)
        else read p.pushTwoStars (some '*') .plain (c :: rest)
    else read p.pushTwoStars (some '*') .plain rest
  | .plain, '*' :: rest => read (p.push .star) (some '*') .plain rest
  | .plain, '?' :: rest => read (p.push .anyByte) (some '?') .plain rest
  | .plain, '[' :: rest => read p (some '[') .classStart rest
  | .plain, '\x7b' :: rest => read p.open (some '\x7b') .plain rest
  | .plain, '\x7d' :: rest =>
    match p.close with
    | .ok p => read p (some '\x7d') .plain rest
    | .error fault => .error fault
  | .plain, ',' :: rest => read p.comma (some ',') .plain rest
  | .plain, '\\' :: rest => read p (some '\\') .escaped rest
  | .plain, c :: rest => read (p.push (.literal c)) (some c) .plain rest
  | .escaped, [] => .error .danglingEscape
  | .escaped, c :: rest => read (p.push (.literal c)) (some c) .plain rest
  | .classStart, [] => .error .unclosedClass
  | .classStart, c :: rest =>
    if c = '!' || c = '^' then read p (some c) (.classBody true true false []) rest
    else
      match readClassChar p false true false [] c with
      | .ok (p, mode) => read p (some c) mode rest
      | .error fault => .error fault
  | .classBody _ _ _ _, [] => .error .unclosedClass
  | .classBody negated first inRange ranges, c :: rest =>
    match readClassChar p negated first inRange ranges c with
    | .ok (p, mode) => read p (some c) mode rest
    | .error fault => .error fault
termination_by _ cs => cs.length

/-- Reads a glob. -/
def ofChars (cs : List Char) : Except GlobFault Glob :=
  read {} none .plain cs

/-- Reads a glob. -/
def ofText (s : String) : Except GlobFault Glob :=
  ofChars s.toList

end Glob
end QualityGates
