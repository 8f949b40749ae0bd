import Mathlib.Data.List.Nodup
import QualityGates.FileTree
import QualityGates.Proofs.Path.Child
import QualityGates.Proofs.Result
import QualityGates.Proofs.Table

/-!
# Places in file trees

In a file tree without links, a path is resolved by its steps alone: resolving two runs of steps one
after the other is resolving them together. So a path that a listing gives leads to the very entry
that it was listed for.

What stands at a place, where a path leads and which files a listing has do not depend on the order
of the entries, also where there are links.
-/

namespace QualityGates.FileTree

/-- A name that a file tree can hold. -/
structure IsEntryName (name : String) : Prop extends Path.IsProper name where
  /-- The name does not mean the directory above. -/
  notUp : name ≠ ".."
  /-- The name has no character that ends names. -/
  noNul : '\x00' ∉ name.toList
  /-- The name is not too long. -/
  short : name.utf8ByteSize ≤ nameLimit

/-- A file tree as it can stand on a disk. -/
structure WellFormed (tree : FileTree) : Prop where
  /-- Every place has one entry. -/
  nodup : (tree.entries.map Prod.fst).Nodup
  /-- Names are proper ones. -/
  names : ∀ item ∈ tree.entries, ∀ name ∈ item.1, IsEntryName name
  /-- Only directories stand above other entries. -/
  above : ∀ item ∈ tree.entries, ∀ other ∈ tree.entries, item.1 <+: other.1 → item.1 ≠ other.1 →
    item.2 = .directory

instance {name : String} : Decidable (IsEntryName name) :=
  decidable_of_iff (Path.isName name.toList = true ∧ '/' ∉ name.toList ∧ name ≠ ".." ∧
    '\x00' ∉ name.toList ∧ name.utf8ByteSize ≤ nameLimit)
    ⟨fun h => ⟨⟨h.1, h.2.1⟩, h.2.2.1, h.2.2.2.1, h.2.2.2.2⟩,
      fun h => ⟨h.isName, h.whole, h.notUp, h.noNul, h.short⟩⟩

/-- Entries that do not stand above each other can stand on a disk. -/
theorem wellFormed_of_apart {tree : FileTree} (nodup : (tree.entries.map Prod.fst).Nodup)
    (names : ∀ place ∈ tree.entries.map Prod.fst, ∀ name ∈ place, IsEntryName name)
    (apart : ∀ place ∈ tree.entries.map Prod.fst, ∀ other ∈ tree.entries.map Prod.fst,
      place <+: other → place = other) : tree.WellFormed := by
  refine ⟨nodup, fun item member => names item.1 (List.mem_map_of_mem member), ?_⟩
  intro item member other otherIn below differ
  have same := apart item.1 (List.mem_map_of_mem member) other.1 (List.mem_map_of_mem otherIn) below
  exact absurd same differ

/-- A file tree in which no entry is a link. -/
def LinkFree (tree : FileTree) : Prop :=
  ∀ item ∈ tree.entries, ∀ target, item.2 ≠ .link target

variable {tree : FileTree} {cwd here place : List String} {entry : Entry} {links : Nat} {p : Path}
  {names more remaining : List String} {bytes : ByteArray}

/-! ## Entries -/

/-- The names that lead to an entry, from wherever, are names that a file tree can hold. -/
theorem WellFormed.isEntryName_of_mem (sound : tree.WellFormed)
    (member : (here ++ names, entry) ∈ tree.entries) : ∀ name ∈ names, IsEntryName name :=
  fun name nameIn => sound.names _ member name (List.mem_append_right here nameIn)

/-- So paths that are made of these names have them as components. -/
theorem WellFormed.isProper_of_mem (sound : tree.WellFormed)
    (member : (here ++ names, entry) ∈ tree.entries) : ∀ name ∈ names, Path.IsProper name :=
  fun name nameIn => (sound.isEntryName_of_mem member name nameIn).toIsProper

/-- At a place with an entry there is that entry. -/
theorem WellFormed.entryAt_of_mem (sound : tree.WellFormed)
    (member : (names, entry) ∈ tree.entries) : tree.entryAt names = some entry := by
  unfold entryAt
  rw [lookup_of_mem sound.nodup member]

/-- Files are where there are entries of files. -/
theorem WellFormed.entryAt_eq_file_iff (sound : tree.WellFormed) :
    tree.entryAt names = some (.file bytes) ↔ (names, .file bytes) ∈ tree.entries := by
  refine ⟨fun found => ?_, sound.entryAt_of_mem⟩
  unfold entryAt at found
  cases there : tree.entries.lookup names with
  | some entry =>
    rw [there] at found
    cases found
    exact mem_of_lookup there
  | none =>
    rw [there] at found
    dsimp only at found
    split at found <;> cases found

/-- Above an entry there are directories. -/
theorem WellFormed.entryAt_above (sound : tree.WellFormed)
    (member : (here ++ more, entry) ∈ tree.entries) (below : more ≠ []) :
    tree.entryAt here = some .directory := by
  unfold entryAt
  cases there : tree.entries.lookup here with
  | some other =>
    have differs : here ≠ here ++ more := fun same =>
      below (List.append_cancel_left ((List.append_nil here).trans same)).symm
    exact congrArg some
      (sound.above _ (mem_of_lookup there) _ member (List.prefix_append here more) differs)
  | none =>
    have above : (here.isEmpty || tree.entries.any fun item => here.isPrefixOf item.1) = true := by
      rw [Bool.or_eq_true, List.any_eq_true]
      exact .inr ⟨_, member, List.isPrefixOf_iff_prefix.mpr (List.prefix_append here more)⟩
    exact if_pos above

/-- Without links, no link is found. -/
theorem LinkFree.entryAt_ne (linkFree : tree.LinkFree) (target : Path) :
    tree.entryAt names ≠ some (.link target) := by
  intro found
  unfold entryAt at found
  cases there : tree.entries.lookup names with
  | some entry =>
    rw [there] at found
    cases found
    exact linkFree _ (mem_of_lookup there) target rfl
  | none =>
    rw [there] at found
    dsimp only at found
    split at found <;> cases found

/-! ## Resolving -/

/-- A step from a place. -/
def step (tree : FileTree) (here : List String) (entry : Entry) (name : String) :
    Except ReadFault (List String × Entry) :=
  match entry with
  | .directory =>
    if name = "" ∨ name = "." then .ok (here, .directory)
    else if name = ".." then .ok (here.dropLast, .directory)
    else if nameLimit < name.utf8ByteSize then .error .nameTooLong
    else
      match tree.entryAt (here ++ [name]) with
      | none => .error .notFound
      | some found => .ok (here ++ [name], found)
  | _ => .error .notDirectory

/-- Without steps, a walk stays where it is. -/
theorem walk_nil : tree.walk links here entry [] = .ok (here, entry) := by
  unfold walk
  rfl

/-- A walk takes one step after the other, and where it comes to a link, the steps of its target
take the place of the step, as long as there are links left. -/
theorem walk_cons (name : String) : tree.walk links here entry (name :: remaining) =
    match tree.step here entry name with
    | .error fault => .error fault
    | .ok (_, .link target) =>
      match links with
      | 0 => .error .tooManyLinks
      | left + 1 =>
        tree.walk left (if target.isAbsolute then [] else here) .directory
          (steps target ++ remaining)
    | .ok (place, found) => tree.walk links place found remaining := by
  rw [walk.eq_def, advance.eq_def]
  unfold step
  cases entry with
  | file bytes => rfl
  | link target => rfl
  | directory =>
    dsimp only
    by_cases stays : name = "" ∨ name = "."
    · rw [if_pos stays, if_pos stays]
      exact walk.eq_def .. |>.symm
    · rw [if_neg stays, if_neg stays]
      by_cases up : name = ".."
      · rw [if_pos up, if_pos up]
        exact walk.eq_def .. |>.symm
      · rw [if_neg up, if_neg up]
        by_cases long : nameLimit < name.utf8ByteSize
        · rw [if_pos long, if_pos long]
        · rw [if_neg long, if_neg long]
          cases found : tree.entryAt (here ++ [name]) with
          | none => rfl
          | some next => cases next with
            | link target => rfl
            | file bytes => exact walk.eq_def .. |>.symm
            | directory => exact walk.eq_def .. |>.symm

/-- A name that a directory is asked for: it neither stays in the directory nor leads out of it, and
it is not too long. -/
structure IsAsked (name : String) : Prop where
  /-- The name does not mean the directory itself. -/
  leaves : ¬ (name = "" ∨ name = ".")
  /-- The name does not mean the directory above. -/
  notUp : name ≠ ".."
  /-- The name is not too long. -/
  short : name.utf8ByteSize ≤ nameLimit

/-- A directory that is asked for a name gives what stands there. -/
theorem step_asked {name : String} (asked : IsAsked name) :
    tree.step here .directory name = match tree.entryAt (here ++ [name]) with
      | none => .error .notFound
      | some found => .ok (here ++ [name], found) := by
  unfold step
  rw [if_neg asked.leaves, if_neg asked.notUp, if_neg (Nat.not_lt.mpr asked.short)]

/-- A step from a directory stays there, goes up, asks for a name or fails at a long one. -/
theorem step_cases (tree : FileTree) (here : List String) (name : String) :
    ((name = "" ∨ name = ".") ∧ tree.step here .directory name = .ok (here, .directory)) ∨
      (name = ".." ∧ tree.step here .directory name = .ok (here.dropLast, .directory)) ∨
        IsAsked name ∨ tree.step here .directory name = .error .nameTooLong := by
  unfold step
  by_cases stays : name = "" ∨ name = "."
  · exact .inl ⟨stays, if_pos stays⟩
  · rw [if_neg stays]
    by_cases up : name = ".."
    · exact .inr (.inl ⟨up, if_pos up⟩)
    · rw [if_neg up]
      by_cases long : nameLimit < name.utf8ByteSize
      · exact .inr (.inr (.inr (if_pos long)))
      · exact .inr (.inr (.inl ⟨stays, up, Nat.not_lt.mp long⟩))

/-- Without links, no step comes to one. -/
theorem LinkFree.step_ne (linkFree : tree.LinkFree) (name : String) (target : Path) :
    tree.step here entry name ≠ .ok (place, .link target) := by
  intro stepped
  cases entry with
  | directory =>
    rcases step_cases tree here name with ⟨_, same⟩ | ⟨_, same⟩ | asked | same
    · cases same.symm.trans stepped
    · cases same.symm.trans stepped
    · rw [step_asked asked] at stepped
      cases found : tree.entryAt (here ++ [name]) with
      | none => rw [found] at stepped; cases stepped
      | some next =>
        rw [found] at stepped
        cases stepped
        exact linkFree.entryAt_ne target found
    · cases same.symm.trans stepped
  | _ => cases stepped

/-- Without links, a walk only takes one step after the other. -/
theorem LinkFree.walk_cons (linkFree : tree.LinkFree) (name : String) :
    tree.walk links here entry (name :: remaining) =
      (tree.step here entry name).bind fun next => tree.walk links next.1 next.2 remaining := by
  rw [FileTree.walk_cons]
  cases stepped : tree.step here entry name with
  | error fault => rfl
  | ok next =>
    obtain ⟨place, found⟩ := next
    cases found with
    | link target => exact absurd stepped (linkFree.step_ne name target)
    | _ => rfl

/-- Without links, walking along two runs of steps is walking along one after the other. -/
theorem LinkFree.walk_append (linkFree : tree.LinkFree) (first second : List String) :
    tree.walk links here entry (first ++ second) =
      (tree.walk links here entry first).bind fun next =>
        tree.walk links next.1 next.2 second := by
  induction first generalizing here entry with
  | nil => rw [List.nil_append, walk_nil]; rfl
  | cons name first ih =>
    rw [List.cons_append, linkFree.walk_cons, linkFree.walk_cons]
    cases tree.step here entry name with
    | error fault => rfl
    | ok next => exact ih

/-- Walking to a child of a directory is walking to the directory and then one step further. -/
theorem LinkFree.walk_child (linkFree : tree.LinkFree) {name : String}
    (proper : Path.IsProper name) (present : p.text.toList ≠ []) :
    tree.walk links here entry (steps (p.child name)) =
      tree.walk links here entry (steps p ++ [name]) := by
  obtain ⟨lead, _, parent, child⟩ := Path.parts_child proper present
  have childSteps : steps (p.child name) = lead.map String.ofList ++ [name] := by
    unfold steps
    rw [child, List.map_append, List.map_singleton, String.ofList_toList]
  rw [childSteps]
  unfold steps
  -- A path that ends with the mark has an empty part at its end, and that is a step that stays.
  rcases parent with same | behind
  · rw [same]
  · rw [behind, List.map_append, List.append_assoc, linkFree.walk_append, linkFree.walk_append]
    congr 1
    funext next
    show _ = tree.walk links next.1 next.2 ["", name]
    rw [linkFree.walk_cons "", linkFree.walk_cons name]
    obtain ⟨place, entry⟩ := next
    cases entry with
    | directory =>
      show _ = tree.walk links place .directory [name]
      rw [linkFree.walk_cons name]
    | _ => rfl

/-- Walking to a path below a directory is walking to the directory and then down. -/
theorem LinkFree.walk_foldl_child (linkFree : tree.LinkFree)
    (proper : ∀ name ∈ names, Path.IsProper name) (present : p.text.toList ≠ []) :
    tree.walk links here entry (steps (names.foldl Path.child p)) =
      tree.walk links here entry (steps p ++ names) := by
  induction names generalizing p with
  | nil => rw [List.append_nil]; rfl
  | cons name names ih =>
    rw [List.forall_mem_cons] at proper
    rw [List.foldl_cons, ih proper.2 (Path.child_present proper.1 present), linkFree.walk_append,
      linkFree.walk_child proper.1 present, ← linkFree.walk_append, List.append_assoc,
      List.singleton_append]

/-- A proper name leads to what stands below a directory. -/
theorem step_of_entryAt {name : String} (proper : IsEntryName name)
    (found : tree.entryAt (here ++ [name]) = some entry) :
    tree.step here .directory name = .ok (here ++ [name], entry) := by
  have leaves : ¬ (name = "" ∨ name = ".") := by
    rintro (rfl | rfl)
    · exact proper.ne_nil rfl
    · exact absurd proper.isName (by decide)
  rw [step_asked ⟨leaves, proper.notUp, proper.short⟩, found]

/-- The names that lead to an entry are a way down to it. -/
theorem LinkFree.walk_down (linkFree : tree.LinkFree) (sound : tree.WellFormed)
    (member : (here ++ names, entry) ∈ tree.entries) (below : names ≠ []) :
    tree.walk links here .directory names = .ok (here ++ names, entry) := by
  induction names generalizing here with
  | nil => exact absurd rfl below
  | cons name names ih =>
    have proper := sound.isEntryName_of_mem member name List.mem_cons_self
    rw [linkFree.walk_cons]
    cases names with
    | nil =>
      rw [step_of_entryAt proper (sound.entryAt_of_mem member)]
      exact walk_nil
    | cons next names =>
      rw [List.append_cons] at member ⊢
      rw [step_of_entryAt proper (sound.entryAt_above member (List.cons_ne_nil next names))]
      exact ih member (List.cons_ne_nil next names)

/-! ## Paths -/

/-- What a path leads to, or why it leads nowhere. -/
def state (tree : FileTree) (cwd : List String) (p : Path) : Except ReadFault Entry :=
  (tree.resolve cwd p).map Prod.snd

/-- The bytes that are read from a path are those of the file that it leads to. -/
theorem bytes_eq : tree.bytes cwd p = (tree.state cwd p).bind fun entry =>
    match entry with
    | .file bytes => .ok bytes
    | _ => .error .isDirectory := by
  unfold bytes state
  cases tree.resolve cwd p with
  | error fault => rfl
  | ok found =>
    obtain ⟨place, entry⟩ := found
    cases entry <;> rfl

/-- Whether a path leads to a file is told by what it leads to. -/
theorem isFile_eq : tree.isFile cwd p = match tree.state cwd p with
    | .ok (.file _) => true
    | _ => false := by
  unfold isFile state
  cases tree.resolve cwd p with
  | error fault => rfl
  | ok found =>
    obtain ⟨place, entry⟩ := found
    cases entry <;> rfl

/-- A path leads to a directory where resolving it ends at one. -/
theorem isDirectory_iff :
    tree.isDirectory cwd p = true ↔ ∃ here, tree.resolve cwd p = .ok (here, .directory) := by
  unfold isDirectory
  cases tree.resolve cwd p with
  | error fault => exact ⟨fun h => (nomatch h), fun ⟨_, h⟩ => (nomatch h)⟩
  | ok found =>
    obtain ⟨place, entry⟩ := found
    cases entry with
    | directory => exact ⟨fun _ => ⟨place, rfl⟩, fun _ => rfl⟩
    | _ => exact ⟨fun h => (nomatch h), fun ⟨_, h⟩ => (nomatch h)⟩

/-- A path that leads somewhere can be walked. -/
theorem resolve_ok_iff {found : List String × Entry} : tree.resolve cwd p = .ok found ↔
    p.text.toList ≠ [] ∧ '\x00' ∉ p.text.toList ∧ p.text.utf8ByteSize ≤ pathLimit ∧
      tree.walk linkLimit (if p.isAbsolute then [] else cwd) .directory (steps p) = .ok found := by
  unfold resolve
  have isEmpty_iff : p.text.isEmpty = true ↔ p.text.toList = [] := by
    rw [String.isEmpty_iff, ← String.toList_inj]
    rfl
  by_cases empty : p.text.isEmpty = true
  · rw [if_pos empty]
    exact ⟨fun h => (nomatch h), fun h => absurd (isEmpty_iff.mp empty) h.1⟩
  · rw [if_neg empty]
    rw [isEmpty_iff] at empty
    by_cases ended : p.text.toList.contains '\x00' = true
    · rw [if_pos ended]
      exact ⟨fun h => (nomatch h), fun h => absurd (List.contains_iff_mem.mp ended) h.2.1⟩
    · rw [if_neg ended]
      rw [List.contains_iff_mem] at ended
      by_cases long : pathLimit < p.text.utf8ByteSize
      · rw [if_pos long]
        exact ⟨fun h => (nomatch h), fun h => absurd h.2.2.1 (Nat.not_le.mpr long)⟩
      · rw [if_neg long]
        exact ⟨fun h => ⟨empty, ended, Nat.not_lt.mp long, h⟩, fun h => h.2.2.2⟩

/-- The end of a name is no part of a path below a directory, unless it is one of the directory. -/
theorem noNul_foldl_child (proper : ∀ name ∈ names, IsEntryName name)
    (present : p.text.toList ≠ []) (noNul : '\x00' ∉ p.text.toList) :
    '\x00' ∉ (names.foldl Path.child p).text.toList := by
  induction names generalizing p with
  | nil => exact noNul
  | cons name names ih =>
    rw [List.forall_mem_cons] at proper
    have first := proper.1
    refine ih proper.2 (Path.child_present first.toIsProper present) fun member => ?_
    rcases Path.mem_child first.toIsProper present member with inPath | isMark | inName
    · exact noNul inPath
    · cases isMark
    · exact first.noNul inName

/-- A path below a directory starts where the directory does. -/
theorem isAbsolute_foldl_child (proper : ∀ name ∈ names, Path.IsProper name)
    (present : p.text.toList ≠ []) :
    (names.foldl Path.child p).isAbsolute = p.isAbsolute := by
  induction names generalizing p with
  | nil => rfl
  | cons name names ih =>
    rw [List.forall_mem_cons] at proper
    rw [List.foldl_cons, ih proper.2 (Path.child_present proper.1 present),
      Path.isAbsolute_child proper.1 present]

/-- A path below a directory leads to the entry below the directory, unless the path is too long. -/
theorem LinkFree.state_below (linkFree : tree.LinkFree) (sound : tree.WellFormed)
    (directory : tree.resolve cwd p = .ok (here, .directory))
    (member : (here ++ names, entry) ∈ tree.entries) (below : names ≠ []) :
    tree.state cwd (names.foldl Path.child p) =
      if pathLimit < (names.foldl Path.child p).text.utf8ByteSize then .error .nameTooLong
      else .ok entry := by
  obtain ⟨present, noNul, _, walked⟩ := resolve_ok_iff.mp directory
  have entryNames := sound.isEntryName_of_mem member
  have proper := sound.isProper_of_mem member
  by_cases long : pathLimit < (names.foldl Path.child p).text.utf8ByteSize
  · have filled : (names.foldl Path.child p).text.isEmpty = false := by
      rw [← Bool.not_eq_true, String.isEmpty_iff]
      exact fun empty => Path.foldl_child_present proper present (by rw [empty]; rfl)
    have unended : (names.foldl Path.child p).text.toList.contains '\x00' = false := by
      rw [← Bool.not_eq_true, List.contains_iff_mem]
      exact noNul_foldl_child entryNames present noNul
    unfold state resolve
    rw [filled, unended, if_neg Bool.false_ne_true, if_neg Bool.false_ne_true, if_pos long,
      if_pos long]
    rfl
  · have found : tree.resolve cwd (names.foldl Path.child p) = .ok (here ++ names, entry) := by
      rw [resolve_ok_iff, isAbsolute_foldl_child proper present,
        linkFree.walk_foldl_child proper present, linkFree.walk_append, walked]
      exact ⟨Path.foldl_child_present proper present, noNul_foldl_child entryNames present noNul,
        Nat.not_lt.mp long, linkFree.walk_down sound member below⟩
    unfold state
    rw [found, if_neg long]
    rfl

/-! ## Listing -/

/-- The names that lead from a place to the files below it. -/
def namesBelow (tree : FileTree) (here : List String) : List (List String) :=
  tree.entries.filterMap (fileBelow here)

/-- A listing has the paths of the files below a directory. -/
theorem filesBelow_eq (directory : tree.resolve cwd p = .ok (here, .directory)) :
    tree.filesBelow cwd p = (tree.namesBelow here).map fun names => names.foldl Path.child p := by
  unfold filesBelow
  rw [directory]
  rfl

/-- A path that does not lead to a directory has no files below it. -/
theorem filesBelow_eq_nil (elsewhere : ∀ here, tree.resolve cwd p ≠ .ok (here, .directory)) :
    tree.filesBelow cwd p = [] := by
  unfold filesBelow
  split
  · rename_i here found
    exact absurd found (elsewhere here)
  · rfl

/-- An entry is listed when it is a file below the place. -/
theorem fileBelow_eq_some_iff {item : List String × Entry} :
    fileBelow here item = some names ↔
      names ≠ [] ∧ item.1 = here ++ names ∧ ∃ bytes, item.2 = .file bytes := by
  obtain ⟨place, entry⟩ := item
  unfold fileBelow
  cases entry with
  | file bytes =>
    cases split : here.isPrefixOf? place with
    | none =>
      refine ⟨fun h => (nomatch h), fun h => ?_⟩
      rw [List.isPrefixOf?_eq_some_iff_append_eq.mpr h.2.1.symm] at split
      cases split
    | some rest =>
      have same := List.isPrefixOf?_eq_some_iff_append_eq.mp split
      cases rest with
      | nil =>
        refine ⟨fun h => (nomatch h), fun h => ?_⟩
        have empty := List.append_cancel_left (same.trans h.2.1)
        exact absurd empty.symm h.1
      | cons name rest =>
        constructor
        · intro h
          cases h
          exact ⟨List.cons_ne_nil name rest, same.symm, bytes, rfl⟩
        · intro h
          exact congrArg some (List.append_cancel_left (same.trans h.2.1))
  | _ => exact ⟨fun h => by split at h <;> simp_all, fun ⟨_, _, bytes, h⟩ => (nomatch h)⟩

/-- The names of a listing lead to the files below the place. -/
theorem mem_namesBelow : names ∈ tree.namesBelow here ↔
    names ≠ [] ∧ ∃ bytes, (here ++ names, .file bytes) ∈ tree.entries := by
  unfold namesBelow
  rw [List.mem_filterMap]
  constructor
  · rintro ⟨⟨place, entry⟩, member, listed⟩
    obtain ⟨below, rfl, bytes, rfl⟩ := fileBelow_eq_some_iff.mp listed
    exact ⟨below, bytes, member⟩
  · rintro ⟨below, bytes, member⟩
    exact ⟨_, member, fileBelow_eq_some_iff.mpr ⟨below, rfl, bytes, rfl⟩⟩

/-- A listing has every file once. -/
theorem WellFormed.namesBelow_nodup (sound : tree.WellFormed) : (tree.namesBelow here).Nodup := by
  have places : tree.entries.Pairwise fun item other => item.1 ≠ other.1 :=
    List.pairwise_map.mp sound.nodup
  refine List.Pairwise.filterMap _ (fun item other differ names listed names' listed' same => ?_)
    places
  obtain ⟨_, place, _⟩ := fileBelow_eq_some_iff.mp listed
  obtain ⟨_, place', _⟩ := fileBelow_eq_some_iff.mp listed'
  exact differ (by rw [place, place', same])

/-! ## The order of entries -/

/-- What stands at a place does not depend on the order in which the entries came to be. -/
theorem WellFormed.entryAt_eq_of_perm {tree' : FileTree} (sound : tree.WellFormed)
    (perm : tree'.entries.Perm tree.entries) : tree'.entryAt names = tree.entryAt names := by
  unfold entryAt
  rw [lookup_eq_of_perm sound.nodup perm, perm.any_eq]

/-- Steps lead to the same stop in trees that have the same entries. -/
theorem advance_congr {tree' : FileTree}
    (same : ∀ names, tree'.entryAt names = tree.entryAt names) :
    tree'.advance here entry remaining = tree.advance here entry remaining := by
  induction remaining generalizing here entry with
  | nil => rw [advance, advance]
  | cons name remaining ih =>
    rw [advance.eq_def, advance.eq_def]
    cases entry with
    | directory =>
      dsimp only
      rw [same]
      cases tree.entryAt (here ++ [name]) with
      | none => simp only [ih]
      | some found => cases found <;> simp only [ih]
    | _ => rfl

/-- Walks lead to the same place in trees that have the same entries. -/
theorem walk_congr {tree' : FileTree} (same : ∀ names, tree'.entryAt names = tree.entryAt names) :
    tree'.walk links here entry remaining = tree.walk links here entry remaining := by
  induction links generalizing here entry remaining with
  | zero => rw [walk.eq_def, walk.eq_def, advance_congr same]
  | succ links ih =>
    rw [walk.eq_def, walk.eq_def, advance_congr same]
    cases tree.advance here entry remaining with
    | error fault => rfl
    | ok stop => cases stop with
      | arrived place entry => rfl
      | atLink place target more => exact ih

/-- A path leads to the same place, whatever the order of the entries. -/
theorem WellFormed.resolve_eq_of_perm {tree' : FileTree} (sound : tree.WellFormed)
    (perm : tree'.entries.Perm tree.entries) : tree'.resolve cwd p = tree.resolve cwd p := by
  unfold resolve
  rw [walk_congr fun names => sound.entryAt_eq_of_perm perm]

/-- A listing has the same files in another order when the entries are in another order. -/
theorem WellFormed.filesBelow_perm {tree' : FileTree} (sound : tree.WellFormed)
    (perm : tree'.entries.Perm tree.entries) :
    (tree'.filesBelow cwd p).Perm (tree.filesBelow cwd p) := by
  unfold filesBelow
  rw [sound.resolve_eq_of_perm perm]
  split
  · exact (perm.filterMap _).map _
  · exact .refl _

end QualityGates.FileTree
