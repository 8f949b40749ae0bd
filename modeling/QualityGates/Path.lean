import QualityGates.Text.Separated

/-!
# Paths

A path is a text in which `/` separates names. Empty names and `.` between separators mean nothing,
so paths are compared by their components; only a leading `.` is a component of its own. The
components of an absolute path start with the root, which is written `/`.
-/

namespace QualityGates

/-- The name of a place in a file tree, as it was written. -/
structure Path where
  text : String
  deriving DecidableEq, Repr, Inhabited

namespace Path

/-- The texts between the separators. -/
def parts (p : Path) : List (List Char) :=
  Text.pieces '/' p.text.toList

/-- Whether a path starts at the root. -/
def isAbsolute (p : Path) : Bool :=
  p.text.toList.head? == some '/'

/-- Whether a text between separators is a component wherever it stands. -/
def isName (part : List Char) : Bool :=
  !part.isEmpty && part != ['.']

/-- The names of a path, without the parts that mean nothing. -/
def names (p : Path) : List String :=
  (p.parts.filter isName).map String.ofList

/-- The components of a path. -/
def components (p : Path) : List String :=
  if p.isAbsolute then "/" :: p.names
  else if p.parts.head? == some ['.'] then "." :: p.names
  else p.names

/-- Whether two paths have the same components. -/
def same (p q : Path) : Bool :=
  p.components == q.components

/-- Whether a text ends in a separator. -/
def endsOpen (p : Path) : Bool :=
  p.text.toList.getLast? == some '/'

/-- The path `q` seen from the directory `p`; an absolute path stays as it is. -/
def join (p q : Path) : Path :=
  if q.isAbsolute then q
  else if p.text.isEmpty || p.endsOpen then ⟨p.text ++ q.text⟩
  else ⟨p.text ++ "/" ++ q.text⟩

/-- The path of a name inside the directory `p`. -/
def child (p : Path) (name : String) : Path :=
  p.join ⟨name⟩

/-- The components of `p` below `root`, or all of them when `p` is not below `root`. -/
def below (root p : Path) : List String :=
  (root.components.isPrefixOf? p.components).getD p.components

/-- The components below a root, joined by separators. -/
def relativeTo (root p : Path) : String :=
  String.intercalate "/" (root.below p)

/-- The absolute path with these names. -/
def ofNames (names : List String) : Path :=
  ⟨"/" ++ String.intercalate "/" names⟩

/-- Whether a file name consists of a stem and the extension `md`. -/
def isMarkdownName (name : String) : Bool :=
  let cs := name.toList
  3 < cs.length && cs.drop (cs.length - 3) == ['.', 'm', 'd']

/-- Whether the last name of a path is that of a markdown file. -/
def isMarkdown (p : Path) : Bool :=
  match p.names.getLast? with
  | some name => isMarkdownName name
  | none => false

/-- The order of texts by code points. -/
def compareChars : List Char → List Char → Ordering
  | [], [] => .eq
  | [], _ :: _ => .lt
  | _ :: _, [] => .gt
  | a :: as, b :: bs => (compare a b).then (compareChars as bs)

/-- The order of names by code points, component by component. -/
def compareNames : List String → List String → Ordering
  | [], [] => .eq
  | [], _ :: _ => .lt
  | _ :: _, [] => .gt
  | a :: as, b :: bs => (compareChars a.toList b.toList).then (compareNames as bs)

/-- Whether a path stands before another one, or has the same components. -/
def notAfter (p q : Path) : Bool :=
  compareNames p.components q.components != .gt

end Path
end QualityGates
