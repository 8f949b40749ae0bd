import QualityGates.Proofs.FileTree
import QualityGates.Proofs.Lookup
import QualityGates.Proofs.Result

/-!
# What does not exist

A path leads to nothing where, on the way along it, a directory is asked for a name that it does not
have. This is told apart from ways that end for other reasons, which lead through a file, around
links without end, or over names that are too long. Reading a text reports that a file is not found
exactly for the paths that lead to nothing.
-/

namespace QualityGates

namespace FileTree

/-- Going through steps from a directory, following at most `links` links, comes to a name that is
not there. -/
inductive Misses (tree : FileTree) : (links : Nat) → (here steps : List String) → Prop where
  /-- Nothing stands at the next name. -/
  | absent {links here name more} (asked : IsAsked name)
    (nothing : tree.entryAt (here ++ [name]) = none) : Misses tree links here (name :: more)
  /-- The next step means the directory itself. -/
  | stay {links here name more} (stays : name = "" ∨ name = ".")
    (later : Misses tree links here more) : Misses tree links here (name :: more)
  /-- The next step means the directory above. -/
  | up {links here more} (later : Misses tree links here.dropLast more) :
    Misses tree links here (".." :: more)
  /-- The next step leads into a directory. -/
  | enter {links here name more} (asked : IsAsked name)
    (directory : tree.entryAt (here ++ [name]) = some .directory)
    (later : Misses tree links (here ++ [name]) more) : Misses tree links here (name :: more)
  /-- The next step comes to a link, and the steps of its target take its place. -/
  | follow {links here name more target} (asked : IsAsked name)
    (link : tree.entryAt (here ++ [name]) = some (.link target))
    (later : Misses tree links (if target.isAbsolute then [] else here) (steps target ++ more)) :
    Misses tree (links + 1) here (name :: more)

/-- A path leads to nothing: it is empty, or a name on the way along it is not there. -/
def Absent (tree : FileTree) (cwd : List String) (p : Path) : Prop :=
  p.text = "" ∨ '\x00' ∉ p.text.toList ∧ p.text.utf8ByteSize ≤ pathLimit ∧
    tree.Misses linkLimit (if p.isAbsolute then [] else cwd) (steps p)

variable {tree : FileTree} {cwd here remaining : List String} {links : Nat} {p : Path}

/-- A walk along steps that come to a name that is not there finds nothing. -/
theorem Misses.walk_eq (misses : tree.Misses links here remaining) :
    tree.walk links here .directory remaining = .error .notFound := by
  induction misses with
  | absent asked nothing => rw [walk_cons, step_asked asked, nothing]
  | @stay links here name more stays later ih =>
    have stepped : tree.step here .directory name = .ok (here, .directory) := if_pos stays
    rw [walk_cons, stepped]
    exact ih
  | up later ih =>
    rw [walk_cons]
    exact ih
  | enter asked directory later ih =>
    rw [walk_cons, step_asked asked, directory]
    exact ih
  | follow asked link later ih =>
    rw [walk_cons, step_asked asked, link]
    exact ih

/-- A walk that goes on from a file fails for another reason. -/
theorem walk_file_ne {bytes : ByteArray} :
    tree.walk links here (.file bytes) remaining ≠ .error .notFound := by
  intro failed
  cases remaining with
  | nil => rw [walk_nil] at failed; cases failed
  | cons next remaining => rw [walk_cons] at failed; cases failed

/-- A walk that finds nothing comes to a name that is not there. -/
theorem misses_of_walk (failed : tree.walk links here .directory remaining = .error .notFound) :
    tree.Misses links here remaining := by
  -- A link makes the steps longer but uses one of the links up.
  induction links using Nat.strongRecOn generalizing here remaining with
  | ind links fewer =>
    induction remaining generalizing here with
    | nil => rw [walk_nil] at failed; cases failed
    | cons name remaining ih =>
      rw [walk_cons] at failed
      rcases step_cases tree here name with ⟨stays, same⟩ | ⟨rfl, same⟩ | asked | same
      · rw [same] at failed
        exact .stay stays (ih failed)
      · rw [same] at failed
        exact .up (ih failed)
      · rw [step_asked asked] at failed
        cases found : tree.entryAt (here ++ [name]) with
        | none => exact .absent asked found
        | some next =>
          rw [found] at failed
          cases next with
          | directory => exact .enter asked found (ih failed)
          | file bytes => exact absurd failed walk_file_ne
          | link target => cases links with
            | zero => cases failed
            | succ left => exact .follow asked found (fewer left (Nat.lt_succ_self left) failed)
      · rw [same] at failed
        cases failed

/-- Resolving reports that nothing is found exactly for the paths that lead to nothing. -/
theorem resolve_eq_notFound_iff : tree.resolve cwd p = .error .notFound ↔ tree.Absent cwd p := by
  unfold resolve Absent
  by_cases empty : p.text = ""
  · rw [if_pos (String.isEmpty_iff.mpr empty)]
    exact ⟨fun _ => .inl empty, fun _ => rfl⟩
  · rw [if_neg (fun h => empty (String.isEmpty_iff.mp h)), or_iff_right empty]
    by_cases ended : '\x00' ∈ p.text.toList
    · rw [if_pos (List.contains_iff_mem.mpr ended)]
      exact ⟨fun h => (nomatch h), fun h => absurd ended h.1⟩
    · rw [if_neg (fun h => ended (List.contains_iff_mem.mp h))]
      by_cases long : pathLimit < p.text.utf8ByteSize
      · rw [if_pos long]
        exact ⟨fun h => (nomatch h), fun h => absurd h.2.1 (Nat.not_le.mpr long)⟩
      · rw [if_neg long]
        constructor
        · intro failed
          exact ⟨ended, Nat.not_lt.mp long, misses_of_walk failed⟩
        · intro absent
          exact absent.2.2.walk_eq

end FileTree

/-- A path leads to a file with the bytes of a text. -/
def Holds (s : Surroundings) (path : Path) (text : String) : Prop :=
  ∃ place, s.tree.resolve s.workingDirectory path = .ok (place, .file (String.toUTF8 text))

/-- A path leads to a file that holds a text in UTF-8. -/
def Readable (s : Surroundings) (path : Path) : Prop :=
  ∃ place text, s.tree.resolve s.workingDirectory path = .ok (place, .file (String.toUTF8 text))

variable {s : Surroundings} {path : Path} {bytes : ByteArray} {text : String}

/-- Bytes are decoded as the text that they are the bytes of. -/
theorem decodeText_ok_iff : decodeText bytes = .ok text ↔ bytes = text.toUTF8 := by
  constructor
  · intro decoded
    unfold decodeText String.fromUTF8? at decoded
    by_cases valid : bytes.IsValidUTF8
    · rw [dif_pos valid] at decoded
      cases decoded
      rfl
    · rw [dif_neg valid] at decoded
      cases decoded
  · rintro rfl
    exact decodeText_toUTF8 text

/-- The text that is looked up is the one that the file at the end of a path holds. -/
theorem Lookup.text_eq_ok_iff : (Lookup.text path).inside s = .ok text ↔ Holds s path text := by
  simp only [Lookup.inside_text, Except.bind_eq_ok_iff, decodeText_ok_iff]
  unfold FileTree.bytes Holds
  cases s.tree.resolve s.workingDirectory path with
  | error fault => simp
  | ok found =>
    obtain ⟨place, entry⟩ := found
    cases entry <;> simp

/-- A text can be looked up exactly where a path leads to a file that holds one. -/
theorem Lookup.text_ok_iff :
    (∃ text, (Lookup.text path).inside s = .ok text) ↔ Readable s path := by
  simp only [Lookup.text_eq_ok_iff]
  exact exists_comm

/-- Looking up a text reports that nothing is found exactly for the paths that lead to nothing. -/
theorem Lookup.text_eq_notFound_iff :
    (Lookup.text path).inside s = .error .notFound ↔
      s.tree.Absent s.workingDirectory path := by
  rw [Lookup.inside_text, Except.bind_eq_error_iff, ← FileTree.resolve_eq_notFound_iff]
  unfold FileTree.bytes
  constructor
  · rintro (unfound | ⟨bytes, _, undecoded⟩)
    · cases resolved : s.tree.resolve s.workingDirectory path with
      | error fault => rw [resolved] at unfound; cases unfound; rfl
      | ok found =>
        obtain ⟨place, entry⟩ := found
        rw [resolved] at unfound
        cases entry <;> cases unfound
    · unfold decodeText at undecoded
      split at undecoded <;> cases undecoded
  · intro unfound
    rw [unfound]
    exact .inl rfl

end QualityGates
