import QualityGates.Path

/-!
# File trees

A file tree gives an entry to some lists of names; a list that only leads to entries is a
directory. A path is resolved step by step: each step needs a directory, `..` goes one level up,
and the target of a symbolic link takes the place of the link. Resolving follows at most forty
links.

Reading, existence and listing are all stated through `FileTree.resolve`.
-/

namespace QualityGates

/-- What stands at a place of a file tree. -/
inductive Entry where
  | file (bytes : ByteArray)
  | link (target : Path)
  | directory
  deriving Inhabited

/-- Why something cannot be read from a path. -/
inductive ReadFault where
  | notFound
  | notDirectory
  | isDirectory
  | tooManyLinks
  | nameTooLong
  | nulInName
  | notText
  /-- A fault that a file tree does not show by itself, in the words of its owner. -/
  | other (text : String)
  deriving DecidableEq, Repr, Inhabited

/-- The wording of a fault. -/
def ReadFault.message : ReadFault → String
  | notFound => "No such file or directory (os error 2)"
  | notDirectory => "Not a directory (os error 20)"
  | isDirectory => "Is a directory (os error 21)"
  | tooManyLinks => "Too many levels of symbolic links (os error 40)"
  | nameTooLong => "File name too long (os error 36)"
  | nulInName => "file name contained an unexpected NUL byte"
  | notText => "stream did not contain valid UTF-8"
  | other text => text

/-- Entries by the names that lead to them. -/
structure FileTree where
  entries : List (List String × Entry)
  deriving Inhabited

namespace FileTree

/-- What stands at a list of names; the names above an entry are directories. -/
def entryAt (tree : FileTree) (names : List String) : Option Entry :=
  match tree.entries.lookup names with
  | some entry => some entry
  | none =>
    if names.isEmpty || tree.entries.any (fun item => names.isPrefixOf item.1) then
      some .directory
    else none

/-- The steps of a path, in which an empty step means the directory itself. -/
def steps (p : Path) : List String :=
  p.parts.map String.ofList

/-- The most links that are followed. -/
def linkLimit : Nat := 40

/-- The most bytes of a name. -/
def nameLimit : Nat := 255

/-- The most bytes of a path. -/
def pathLimit : Nat := 4095

/-- Where steps lead before a link is followed: to a place, or to a link from the directory `here`
with steps behind it. -/
inductive Stop where
  | arrived (place : List String) (entry : Entry)
  | atLink (here : List String) (target : Path) (remaining : List String)
  deriving Inhabited

/-- Goes through steps from the place `here`, where `entry` stands, up to the first link. -/
def advance (tree : FileTree) (here : List String) (entry : Entry) :
    List String → Except ReadFault Stop
  | [] => .ok (.arrived here entry)
  | step :: more =>
    match entry with
    | .directory =>
      if step = "" ∨ step = "." then advance tree here .directory more
      else if step = ".." then advance tree here.dropLast .directory more
      else if nameLimit < step.utf8ByteSize then .error .nameTooLong
      else
        match tree.entryAt (here ++ [step]) with
        | none => .error .notFound
        | some (.link target) => .ok (.atLink here target more)
        | some found => advance tree (here ++ [step]) found more
    | _ => .error .notDirectory

/-- Goes through the steps that remain from the place `here`, where `entry` stands, and follows at
most `links` links. -/
def walk (tree : FileTree) (links : Nat) (here : List String) (entry : Entry)
    (remaining : List String) : Except ReadFault (List String × Entry) :=
  match tree.advance here entry remaining with
  | .error fault => .error fault
  | .ok (.arrived place entry) => .ok (place, entry)
  | .ok (.atLink here target more) =>
    match links with
    | 0 => .error .tooManyLinks
    | left + 1 =>
      walk tree left (if target.isAbsolute then [] else here) .directory (steps target ++ more)

/-- The place that a path leads to from a directory, and what stands there. -/
def resolve (tree : FileTree) (cwd : List String) (p : Path) :
    Except ReadFault (List String × Entry) :=
  if p.text.isEmpty then .error .notFound
  else if p.text.toList.contains '\x00' then .error .nulInName
  else if pathLimit < p.text.utf8ByteSize then .error .nameTooLong
  else tree.walk linkLimit (if p.isAbsolute then [] else cwd) .directory (steps p)

/-- The bytes of the file that a path leads to. -/
def bytes (tree : FileTree) (cwd : List String) (p : Path) : Except ReadFault ByteArray :=
  match tree.resolve cwd p with
  | .ok (_, .file bytes) => .ok bytes
  | .ok _ => .error .isDirectory
  | .error fault => .error fault

/-- Whether a path leads to a file. -/
def isFile (tree : FileTree) (cwd : List String) (p : Path) : Bool :=
  match tree.resolve cwd p with
  | .ok (_, .file _) => true
  | _ => false

/-- Whether a path leads to a directory. -/
def isDirectory (tree : FileTree) (cwd : List String) (p : Path) : Bool :=
  match tree.resolve cwd p with
  | .ok (_, .directory) => true
  | _ => false

/-- The absolute path without links that a path stands for. -/
def canonical (tree : FileTree) (cwd : List String) (p : Path) : Option Path :=
  match tree.resolve cwd p with
  | .ok (names, _) => some (.ofNames names)
  | .error _ => none

/-- The names that lead from a place to an entry, if the entry is a file below that place. -/
def fileBelow (here : List String) (item : List String × Entry) : Option (List String) :=
  match item.2, here.isPrefixOf? item.1 with
  | .file _, some (name :: more) => some (name :: more)
  | _, _ => none

/-- The files below the directory that a path leads to, links not followed, as paths that start
with that path. -/
def filesBelow (tree : FileTree) (cwd : List String) (p : Path) : List Path :=
  match tree.resolve cwd p with
  | .ok (here, .directory) =>
    (tree.entries.filterMap (fileBelow here)).map (fun names => names.foldl Path.child p)
  | _ => []

/-- The place that a name inside a directory stands for, links followed where they lead anywhere. -/
def enter (tree : FileTree) (here : List String) (name : String) : List String :=
  match tree.walk linkLimit here .directory [name] with
  | .ok (place, _) => place
  | .error _ => here ++ [name]

/-- Adds an entry. The directories that lead to it need not exist. -/
def add (tree : FileTree) (names : List String) (entry : Entry) : FileTree :=
  match names.getLast? with
  | some name => ⟨tree.entries ++ [(names.dropLast.foldl tree.enter [] ++ [name], entry)]⟩
  | none => tree

end FileTree
end QualityGates
