import QualityGates.Proofs.Drift.Targets
import QualityGates.Proofs.FileTree
import QualityGates.Proofs.Path.Order

/-!
# The documents of a project

The gate checks the readme and the markdown files below the documents directory, links not followed.
The files are found entry by entry, so every one of them is listed once; their paths have different
components, so sorting puts them in an order that is strict and that depends neither on the order of
the entries nor on that of the listing.
-/

namespace QualityGates
namespace Drift

variable {s s' : Surroundings} {l : Layout} {path : Path} {names : List String}
  {bytes bytes' : ByteArray}

/-- A markdown file below the documents directory, by the names that lead to it from there. -/
def DocumentBelow (s : Surroundings) (l : Layout) (names : List String) (bytes : ByteArray) :
    Prop :=
  (∃ last, names.getLast? = some last ∧ Path.isMarkdownName last = true) ∧
    ∃ here, s.tree.resolve s.workingDirectory l.docs = .ok (here, .directory) ∧
      s.tree.entryAt (here ++ names) = some (.file bytes)

/-- A document below the documents directory is an entry there, and its path has the names that
lead to it. -/
theorem DocumentBelow.isEntry (document : DocumentBelow s l names bytes)
    (sound : s.tree.WellFormed) :
    ∃ here, s.tree.resolve s.workingDirectory l.docs = .ok (here, .directory) ∧
      (here ++ names, .file bytes) ∈ s.tree.entries ∧ names ≠ [] ∧
      ∀ name ∈ names, Path.IsProper name := by
  obtain ⟨⟨last, ends, _⟩, here, directory, found⟩ := document
  have member := sound.entryAt_eq_file_iff.mp found
  refine ⟨here, directory, member, ?_, sound.isProper_of_mem member⟩
  rintro rfl
  cases ends

/-- The documents directory has a path where there are documents below it. -/
theorem DocumentBelow.present (document : DocumentBelow s l names bytes) :
    l.docs.text.toList ≠ [] := by
  obtain ⟨_, here, directory, _⟩ := document
  exact (FileTree.resolve_ok_iff.mp directory).1

/-- Whether a path below a directory is one of a markdown file is told by the last name. -/
theorem isMarkdown_foldl_child {p : Path} (proper : ∀ name ∈ names, Path.IsProper name)
    (present : p.text.toList ≠ []) (below : names ≠ []) :
    (names.foldl Path.child p).isMarkdown = true ↔
      ∃ last, names.getLast? = some last ∧ Path.isMarkdownName last = true := by
  unfold Path.isMarkdown
  rw [Path.names_foldl_child proper present, List.getLast?_append_of_ne_nil _ below]
  cases names.getLast? with
  | none => exact ⟨fun h => (nomatch h), fun ⟨_, h, _⟩ => (nomatch h)⟩
  | some last =>
    exact ⟨fun h => ⟨last, rfl, h⟩, fun ⟨_, same, h⟩ => by cases same; exact h⟩

/-- The listed markdown files are the documents below the documents directory. -/
theorem mem_markdown (sound : s.tree.WellFormed) :
    path ∈ (s.tree.filesBelow s.workingDirectory l.docs).filter Path.isMarkdown ↔
      ∃ names bytes, DocumentBelow s l names bytes ∧ path = names.foldl Path.child l.docs := by
  rw [List.mem_filter]
  constructor
  · rintro ⟨listed, markdown⟩
    by_cases directory : ∃ here, s.tree.resolve s.workingDirectory l.docs = .ok (here, .directory)
    · obtain ⟨here, directory⟩ := directory
      rw [FileTree.filesBelow_eq directory, List.mem_map] at listed
      obtain ⟨names, below, rfl⟩ := listed
      obtain ⟨filled, bytes, member⟩ := FileTree.mem_namesBelow.mp below
      have proper := sound.isProper_of_mem member
      have present := (FileTree.resolve_ok_iff.mp directory).1
      rw [isMarkdown_foldl_child proper present filled] at markdown
      exact ⟨names, bytes, ⟨markdown, here, directory, sound.entryAt_of_mem member⟩, rfl⟩
    · rw [FileTree.filesBelow_eq_nil (not_exists.mp directory)] at listed
      exact absurd listed List.not_mem_nil
  · rintro ⟨names, bytes, document, rfl⟩
    obtain ⟨here, directory, member, filled, proper⟩ := document.isEntry sound
    refine ⟨?_, (isMarkdown_foldl_child proper document.present filled).mpr document.1⟩
    rw [FileTree.filesBelow_eq directory, List.mem_map]
    exact ⟨names, FileTree.mem_namesBelow.mpr ⟨filled, bytes, member⟩, rfl⟩

/-- Documents whose paths have the same components have the same names. -/
theorem names_eq_of_components {other : List String}
    (sound : s.tree.WellFormed) (sound' : s'.tree.WellFormed)
    (document : DocumentBelow s l names bytes) (document' : DocumentBelow s' l other bytes')
    (same : (names.foldl Path.child l.docs).components =
      (other.foldl Path.child l.docs).components) : names = other := by
  obtain ⟨_, _, _, _, proper⟩ := document.isEntry sound
  obtain ⟨_, _, _, _, proper'⟩ := document'.isEntry sound'
  rw [Path.components_foldl_child proper document.present,
    Path.components_foldl_child proper' document.present] at same
  exact List.append_cancel_left same

/-- Every markdown file is listed once. -/
theorem markdown_nodup (sound : s.tree.WellFormed) :
    ((s.tree.filesBelow s.workingDirectory l.docs).filter Path.isMarkdown).Nodup := by
  refine List.Nodup.filter _ ?_
  by_cases directory : ∃ here, s.tree.resolve s.workingDirectory l.docs = .ok (here, .directory)
  · obtain ⟨here, directory⟩ := directory
    have present := (FileTree.resolve_ok_iff.mp directory).1
    have proper : ∀ names ∈ s.tree.namesBelow here, ∀ name ∈ names, Path.IsProper name := by
      intro names below
      obtain ⟨_, bytes, member⟩ := FileTree.mem_namesBelow.mp below
      exact sound.isProper_of_mem member
    rw [FileTree.filesBelow_eq directory]
    refine List.Nodup.map_on (fun names below other below' same => ?_) sound.namesBelow_nodup
    have components := congrArg Path.components same
    rw [Path.components_foldl_child (proper names below) present,
      Path.components_foldl_child (proper other below') present] at components
    exact List.append_cancel_left components
  · rw [FileTree.filesBelow_eq_nil (not_exists.mp directory)]
    exact List.nodup_nil

/-- The readme comes first and the markdown files follow, also where there are none because there
is no documents directory. -/
theorem inside_paths_eq : (Targets.paths l).inside s = .ok (l.readme ::
    Targets.markdownFiles (s.tree.filesBelow s.workingDirectory l.docs)) := by
  rw [Targets.inside_paths]
  by_cases directory : s.tree.isDirectory s.workingDirectory l.docs = true
  · rw [if_pos directory]
  · rw [if_neg directory]
    rw [FileTree.isDirectory_iff, not_exists] at directory
    rw [FileTree.filesBelow_eq_nil directory]
    unfold Targets.markdownFiles
    rw [List.filter_nil, List.mergeSort_nil]

/-- Markdown files that are listed in the order of their paths are taken as they are. -/
theorem inside_paths_of_sorted {listed : List Path}
    (files : (s.tree.filesBelow s.workingDirectory l.docs).filter Path.isMarkdown = listed)
    (sorted : listed.Pairwise fun p q => Path.notAfter p q = true) :
    (Targets.paths l).inside s = .ok (l.readme :: listed) := by
  rw [inside_paths_eq, Targets.markdownFiles, files, List.mergeSort_of_pairwise sorted]

/-- Listed markdown files with the same components are the same. -/
theorem markdown_different (sound : s.tree.WellFormed) :
    ∀ p ∈ (s.tree.filesBelow s.workingDirectory l.docs).filter Path.isMarkdown,
      ∀ q ∈ (s.tree.filesBelow s.workingDirectory l.docs).filter Path.isMarkdown,
        p.components = q.components → p = q := by
  intro p pIn q qIn same
  obtain ⟨names, bytes, document, rfl⟩ := (mem_markdown sound).mp pIn
  obtain ⟨other, bytes', document', rfl⟩ := (mem_markdown sound).mp qIn
  rw [names_eq_of_components sound sound document document' same]

/-- The order in which files are listed does not matter. -/
theorem markdownFiles_eq_of_perm (sound : s.tree.WellFormed) {files : List Path}
    (perm : files.Perm (s.tree.filesBelow s.workingDirectory l.docs)) :
    Targets.markdownFiles files =
      Targets.markdownFiles (s.tree.filesBelow s.workingDirectory l.docs) := by
  unfold Targets.markdownFiles
  exact (Path.mergeSort_eq_of_perm (perm.filter _).symm (markdown_different sound)).symm

/-! ## The listing -/

/-- The name of a markdown file is a stem that is not empty with the extension behind it. -/
theorem isMarkdownName_iff {name : String} :
    Path.isMarkdownName name = true ↔ ∃ stem, stem ≠ "" ∧ name = stem ++ ".md" := by
  unfold Path.isMarkdownName
  rw [Bool.and_eq_true, decide_eq_true_eq, beq_iff_eq]
  constructor
  · rintro ⟨long, ends⟩
    refine ⟨String.ofList (name.toList.take (name.toList.length - 3)), fun empty => ?_, ?_⟩
    · have none : name.toList.take (name.toList.length - 3) = [] :=
        String.ofList_eq_empty_iff.mp empty
      have length := congrArg List.length none
      rw [List.length_take, List.length_nil] at length
      omega
    · apply String.toList_inj.mp
      rw [String.toList_append, String.toList_ofList]
      exact (List.take_append_drop _ _).symm.trans (congrArg _ ends)
  · rintro ⟨stem, filled, rfl⟩
    have some : 0 < stem.toList.length :=
      List.length_pos_iff.mpr fun empty => filled (String.toList_inj.mp empty)
    have extension : (".md" : String).toList = ['.', 'm', 'd'] := rfl
    rw [String.toList_append, extension, List.length_append]
    refine ⟨Nat.lt_add_of_pos_left some, ?_⟩
    show List.drop (stem.toList.length + 3 - 3) _ = _
    rw [Nat.add_sub_cancel, List.drop_left]

/-- The names that lead from a directory to a regular file below it, no link and no directory, whose
name is a stem that is not empty with the extension `md`. -/
def IsDocument (s : Surroundings) (docs : Path) (names : List String) : Prop :=
  ∃ here bytes, s.tree.resolve s.workingDirectory docs = .ok (here, .directory) ∧
    s.tree.entryAt (here ++ names) = some (.file bytes) ∧
      ∃ above stem, stem ≠ "" ∧ names = above ++ [stem ++ ".md"]

/-- The documents are the markdown files below the documents directory. -/
theorem isDocument_iff : IsDocument s l.docs names ↔ ∃ bytes, DocumentBelow s l names bytes := by
  constructor
  · rintro ⟨here, bytes, directory, found, above, stem, filled, rfl⟩
    have markdown := isMarkdownName_iff.mpr ⟨stem, filled, rfl⟩
    exact ⟨bytes, ⟨_, List.getLast?_concat, markdown⟩, here, directory, found⟩
  · rintro ⟨bytes, ⟨last, ends, markdown⟩, here, directory, found⟩
    obtain ⟨above, rfl⟩ := List.getLast?_eq_some_iff.mp ends
    obtain ⟨stem, filled, rfl⟩ := isMarkdownName_iff.mp markdown
    exact ⟨here, bytes, directory, found, above, stem, filled, rfl⟩

/-- What it is for paths to be a listing of the documents below a directory. -/
structure Enumerates (s : Surroundings) (docs : Path) (documents : List Path) : Prop where
  /-- All documents are listed, and nothing else. -/
  complete : ∀ path, path ∈ documents ↔
    ∃ names, IsDocument s docs names ∧ path = names.foldl Path.child docs
  /-- No document is listed twice. -/
  once : documents.Nodup
  /-- The paths come in the order of their components. -/
  sorted : documents.Pairwise Path.Before
  /-- What is below a directory stands before what a name leads to that goes on where the name of
  the directory ends. -/
  belowFirst : ∀ name tail below others, tail ≠ "" → IsDocument s docs (name :: below) →
    IsDocument s docs ((name ++ tail) :: others) →
      [(name :: below).foldl Path.child docs,
        ((name ++ tail) :: others).foldl Path.child docs].Sublist documents

/-- The sorted markdown files are a listing of the documents. -/
theorem enumerates_markdownFiles (sound : s.tree.WellFormed) : Enumerates s l.docs
    (Targets.markdownFiles (s.tree.filesBelow s.workingDirectory l.docs)) := by
  have member (path : Path) :
      path ∈ Targets.markdownFiles (s.tree.filesBelow s.workingDirectory l.docs) ↔
        ∃ names, IsDocument s l.docs names ∧ path = names.foldl Path.child l.docs := by
    unfold Targets.markdownFiles
    simp only [List.mem_mergeSort, mem_markdown sound, isDocument_iff, exists_and_right]
  have sorted : (Targets.markdownFiles
      (s.tree.filesBelow s.workingDirectory l.docs)).Pairwise Path.Before :=
    Path.pairwise_before_mergeSort (markdown_nodup sound) (markdown_different sound)
  refine ⟨member, ?_, sorted, ?_⟩
  · exact (List.mergeSort_perm _ _).nodup_iff.mpr (markdown_nodup sound)
  · intro name tail below others longer document document'
    have listed := (member _).mpr ⟨_, document, rfl⟩
    have listed' := (member _).mpr ⟨_, document', rfl⟩
    obtain ⟨bytes, document⟩ := isDocument_iff.mp document
    obtain ⟨bytes', document'⟩ := isDocument_iff.mp document'
    obtain ⟨_, _, _, _, proper⟩ := document.isEntry sound
    obtain ⟨_, _, _, _, proper'⟩ := document'.isEntry sound
    have before := Path.before_of_longer_name document.present longer proper proper'
    exact Path.sublist_of_before sorted listed listed' before

/-- The documents of a project are the readme and then exactly the markdown files below the
documents directory, each once and in the order of their paths. There are none where there is no
documents directory, and neither the order in which the entries came to be nor that in which they
are listed makes a difference. -/
theorem paths_enumerate (root : Path) (sound : s.tree.WellFormed) :
    ∃ documents, (Targets.paths (.ofRoot root)).inside s =
        .ok (root.child "README.md" :: documents) ∧
      Enumerates s (root.child "docs") documents ∧
      ((∀ here, s.tree.resolve s.workingDirectory (root.child "docs") ≠ .ok (here, .directory)) →
        documents = []) ∧
      (∀ files, files.Perm (s.tree.filesBelow s.workingDirectory (root.child "docs")) →
        Targets.markdownFiles files = documents) ∧
      ∀ s' : Surroundings, s'.workingDirectory = s.workingDirectory →
        s'.tree.entries.Perm s.tree.entries →
        (Targets.paths (.ofRoot root)).inside s' = .ok (root.child "README.md" :: documents) := by
  refine ⟨_, inside_paths_eq, enumerates_markdownFiles (l := .ofRoot root) sound, ?_, ?_, ?_⟩
  · intro elsewhere
    show Targets.markdownFiles (s.tree.filesBelow s.workingDirectory (root.child "docs")) = []
    rw [FileTree.filesBelow_eq_nil elsewhere]
    unfold Targets.markdownFiles
    rw [List.filter_nil, List.mergeSort_nil]
  · intro files perm
    exact markdownFiles_eq_of_perm (l := .ofRoot root) sound perm
  · intro s' sameDirectory perm
    rw [inside_paths_eq, sameDirectory]
    rw [markdownFiles_eq_of_perm (l := .ofRoot root) sound (sound.filesBelow_perm perm)]
    rfl

/-- A project in which what is no document is named like one. -/
def crowdedProject : Surroundings where
  tree := ⟨[(["p", "docs", "a.md"], .file "A".toUTF8),
    (["p", "docs", "a-b", "x.md"], .file "X".toUTF8),
    (["p", "docs", "a", "z.md"], .file "Z".toUTF8),
    (["p", "docs", ".md"], .file "no stem".toUTF8),
    (["p", "docs", "notes.txt"], .file "no document".toUTF8),
    (["p", "docs", "linked.md"], .link ⟨"a.md"⟩),
    (["p", "docs", "folder.md"], .directory)]⟩
  workingDirectory := ["p"]

/-- The crowded project can stand on a disk. -/
theorem crowded_wellFormed : crowdedProject.tree.WellFormed :=
  FileTree.wellFormed_of_apart (by decide) (by decide) (by decide)

/-- The documents of the crowded project. -/
theorem crowded_enumerate : crowdedProject.tree.WellFormed ∧
    ∃ documents, (Targets.paths (.ofRoot ⟨"."⟩)).inside crowdedProject =
        .ok (⟨"./README.md"⟩ :: documents) ∧
      documents = [⟨"./docs/a/z.md"⟩, ⟨"./docs/a-b/x.md"⟩, ⟨"./docs/a.md"⟩] ∧
      Enumerates crowdedProject ⟨"./docs"⟩ documents := by
  obtain ⟨documents, found, enumerates, _, ordered, _⟩ :=
    paths_enumerate ⟨"."⟩ crowded_wellFormed
  -- Files that are listed in the order of their paths need no sorting.
  let files : List Path := [⟨"./docs/.md"⟩, ⟨"./docs/a/z.md"⟩, ⟨"./docs/a-b/x.md"⟩,
    ⟨"./docs/a.md"⟩, ⟨"./docs/notes.txt"⟩]
  have perm : files.Perm
      (crowdedProject.tree.filesBelow crowdedProject.workingDirectory ⟨"./docs"⟩) := by
    decide +kernel
  have markdown : files.filter Path.isMarkdown =
      [⟨"./docs/a/z.md"⟩, ⟨"./docs/a-b/x.md"⟩, ⟨"./docs/a.md"⟩] := by
    decide +kernel
  refine ⟨crowded_wellFormed, documents, found, ?_, enumerates⟩
  rw [← ordered files perm, Targets.markdownFiles, markdown]
  exact List.mergeSort_of_pairwise (by decide +kernel)

end Drift
end QualityGates
