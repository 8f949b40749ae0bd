import QualityGates.FileTree

/-!
# Looking things up in a file tree

A gate decides what to read as it goes. `Lookup α` is such a procedure: it asks a question about
files, goes on with the answer, and ends with a value. `Lookup.on` runs a procedure on a file tree,
so what a gate finds is a function of the tree. The same procedure can be carried out on the
machine it runs on.
-/

namespace QualityGates

/-- A question about files. -/
inductive Question where
  | bytes (p : Path)
  | isFile (p : Path)
  | isDirectory (p : Path)
  | canonical (p : Path)
  | workingDirectory
  | filesBelow (p : Path)
  deriving DecidableEq, Repr

/-- The answer to a question. A listing can fail at a path below the one that was asked for. -/
abbrev Answer : Question → Type
  | .bytes _ => Except ReadFault ByteArray
  | .isFile _ => Bool
  | .isDirectory _ => Bool
  | .canonical _ => Option Path
  | .workingDirectory => Path
  | .filesBelow _ => Except (Path × ReadFault) (List Path)

/-- A procedure that asks questions and ends with a value. -/
inductive Lookup (α : Type) where
  | done (value : α)
  | ask (q : Question) (next : Answer q → Lookup α)

namespace Lookup

variable {α β : Type}

/-- Goes on with the value of a procedure. -/
def bind : Lookup α → (α → Lookup β) → Lookup β
  | done value, next => next value
  | ask q more, next => ask q (fun answer => (more answer).bind next)

instance : Monad Lookup where
  pure := done
  bind := bind

/-- The answer to one question. -/
def question (q : Question) : Lookup (Answer q) :=
  ask q done

/-- The value that a procedure ends with when `answer` gives the answers. -/
def run (answer : (q : Question) → Answer q) : Lookup α → α
  | done value => value
  | ask q next => (next (answer q)).run answer

@[simp] theorem run_pure (answer : (q : Question) → Answer q) (value : α) :
    (pure value : Lookup α).run answer = value := rfl

@[simp] theorem run_question (answer : (q : Question) → Answer q) (q : Question) :
    (question q).run answer = answer q := rfl

@[simp] theorem run_bind (answer : (q : Question) → Answer q) (x : Lookup α)
    (next : α → Lookup β) : (x >>= next).run answer = (next (x.run answer)).run answer := by
  show (x.bind next).run answer = _
  induction x with
  | done value => rfl
  | ask q more ih => exact ih (answer q)

end Lookup

/-- A file tree and the directory in which a program runs. -/
structure Surroundings where
  tree : FileTree
  workingDirectory : List String

namespace Surroundings

/-- What the surroundings answer to a question. A file tree is read whole, so a listing never fails
in them; that it may fail is left to the machine. -/
def answer (s : Surroundings) : (q : Question) → Answer q
  | .bytes p => s.tree.bytes s.workingDirectory p
  | .isFile p => s.tree.isFile s.workingDirectory p
  | .isDirectory p => s.tree.isDirectory s.workingDirectory p
  | .canonical p => s.tree.canonical s.workingDirectory p
  | .workingDirectory => .ofNames s.workingDirectory
  | .filesBelow p => .ok (s.tree.filesBelow s.workingDirectory p)

end Surroundings

namespace Lookup

variable {α β : Type}

/-- The value that a procedure ends with in some surroundings. -/
def inside (s : Surroundings) (x : Lookup α) : α :=
  x.run s.answer

@[simp] theorem inside_pure (s : Surroundings) (value : α) :
    (pure value : Lookup α).inside s = value := rfl

@[simp] theorem inside_question (s : Surroundings) (q : Question) :
    (question q).inside s = s.answer q := rfl

@[simp] theorem inside_bind (s : Surroundings) (x : Lookup α) (next : α → Lookup β) :
    (x >>= next).inside s = (next (x.inside s)).inside s :=
  run_bind s.answer x next

end Lookup
end QualityGates
