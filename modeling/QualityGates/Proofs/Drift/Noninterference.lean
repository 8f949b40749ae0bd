import QualityGates.Proofs.Drift.Documents
import QualityGates.Proofs.Drift.Run

/-!
# What the drift gate does not depend on

A run of the gate is decided by the names of the markdown files below the documents directory, by
the contents of those that are not passed over, by the readme unless that is passed over, and by the
manifest unless a version is given. Two projects that agree on these get the same result, whatever
else differs between them.
-/

namespace QualityGates
namespace Drift

variable {s s' : Surroundings} {l : Layout} {allowlist : Allowlist} {path : Path}
  {names : List String} {bytes bytes' : ByteArray}

/-- A file tree that is well-formed and has no links. -/
structure Plain (s : Surroundings) : Prop where
  /-- The file tree can stand on a disk. -/
  sound : s.tree.WellFormed
  /-- No entry is a link. -/
  linkFree : s.tree.LinkFree

/-- Projects with the same markdown files have their documents at the same paths. -/
theorem paths_eq (plain : Plain s) (plain' : Plain s')
    (documents : ∀ names, (∃ bytes, DocumentBelow s l names bytes) ↔
      ∃ bytes, DocumentBelow s' l names bytes) :
    (Targets.paths l).inside s = (Targets.paths l).inside s' := by
  rw [inside_paths_eq, inside_paths_eq]
  congr 2
  unfold Targets.markdownFiles
  apply Path.mergeSort_eq_of_perm
  · rw [List.perm_ext_iff_of_nodup (markdown_nodup plain.sound) (markdown_nodup plain'.sound)]
    intro path
    rw [mem_markdown plain.sound, mem_markdown plain'.sound]
    constructor
    · rintro ⟨names, bytes, document, rfl⟩
      obtain ⟨bytes', document'⟩ := (documents names).mp ⟨bytes, document⟩
      exact ⟨names, bytes', document', rfl⟩
    · rintro ⟨names, bytes', document', rfl⟩
      obtain ⟨bytes, document⟩ := (documents names).mpr ⟨bytes', document'⟩
      exact ⟨names, bytes, document, rfl⟩
  · exact markdown_different plain.sound

/-- Where a path leads to the same, the same text is read. -/
theorem text_eq (same : s.tree.state s.workingDirectory path =
    s'.tree.state s'.workingDirectory path) :
    (Lookup.text path).inside s = (Lookup.text path).inside s' := by
  rw [Lookup.inside_text, Lookup.inside_text, FileTree.bytes_eq, FileTree.bytes_eq, same]

/-- A document with the same bytes in two projects is the same thing to read. -/
theorem document_state_eq (plain : Plain s) (plain' : Plain s')
    (document : DocumentBelow s l names bytes) (document' : DocumentBelow s' l names bytes) :
    s.tree.state s.workingDirectory (names.foldl Path.child l.docs) =
      s'.tree.state s'.workingDirectory (names.foldl Path.child l.docs) := by
  obtain ⟨here, directory, member, filled, _⟩ := document.isEntry plain.sound
  obtain ⟨here', directory', member', _, _⟩ := document'.isEntry plain'.sound
  rw [plain.linkFree.state_below plain.sound directory member filled,
    plain'.linkFree.state_below plain'.sound directory' member' filled]

/-- Reading gives the same where the texts that are not passed over are the same. -/
theorem read_eq {paths : List Path} (same : ∀ path ∈ paths, passesOver l allowlist path = false →
    (Lookup.text path).inside s = (Lookup.text path).inside s') :
    (Targets.read l allowlist paths).inside s = (Targets.read l allowlist paths).inside s' := by
  induction paths with
  | nil => rw [Targets.inside_read_nil, Targets.inside_read_nil]
  | cons path paths ih =>
    rw [List.forall_mem_cons] at same
    have rest := ih same.2
    cases skipped : passesOver l allowlist path with
    | true => rw [Targets.inside_read_passed skipped, Targets.inside_read_passed skipped, rest]
    | false =>
      rw [Targets.inside_read_kept skipped, Targets.inside_read_kept skipped, same.1 skipped, rest]

end Drift

/-- Where a manifest is in the same state, or a version is given, the same version is resolved. -/
theorem Release.inside_resolve_eq {s s' : Surroundings} {override : Option String} {manifest : Path}
    (same : override = none → s.tree.state s.workingDirectory manifest =
      s'.tree.state s'.workingDirectory manifest) :
    (resolve override manifest).inside s = (resolve override manifest).inside s' := by
  cases given : override with
  | some raw => rfl
  | none =>
    unfold resolve
    rw [Lookup.inside_bind, Lookup.inside_bind, Drift.text_eq (same given)]
    cases ofManifest manifest ((Lookup.text manifest).inside s') <;> rfl

namespace DriftRun

open Drift

/-- What two projects have to agree on for the gate to treat them alike. -/
structure Alike (c : DriftConfig) (s s' : Surroundings) : Prop where
  /-- The same names lead to markdown files below the documents directory. -/
  documents : ∀ names, (∃ bytes, DocumentBelow s c.layout names bytes) ↔
    ∃ bytes, DocumentBelow s' c.layout names bytes
  /-- Markdown files that are not passed over have the same bytes. -/
  contents : ∀ allowlist, Allowlist.ofPatterns c.allowlist = .ok allowlist →
    ∀ names bytes bytes', DocumentBelow s c.layout names bytes →
      DocumentBelow s' c.layout names bytes' →
      passesOver c.layout allowlist (names.foldl Path.child c.layout.docs) = false → bytes = bytes'
  /-- The readme is in the same state, unless it is passed over. -/
  readme : ∀ allowlist, Allowlist.ofPatterns c.allowlist = .ok allowlist →
    passesOver c.layout allowlist c.layout.readme = false →
    s.tree.state s.workingDirectory c.layout.readme =
      s'.tree.state s'.workingDirectory c.layout.readme
  /-- The manifest is in the same state, unless a version is given. -/
  manifest : c.baselineOverride = none →
    s.tree.state s.workingDirectory c.layout.manifest =
      s'.tree.state s'.workingDirectory c.layout.manifest

variable {c : DriftConfig} {s s' : Surroundings}

/-- Projects that are alike have the same release version. -/
theorem Alike.release_eq (alike : Alike c s s') :
    (Release.resolve c.baselineOverride c.layout.manifest).inside s =
      (Release.resolve c.baselineOverride c.layout.manifest).inside s' :=
  Release.inside_resolve_eq alike.manifest

/-- Projects that are alike have the same texts to read. -/
theorem Alike.text_eq_of_mem (alike : Alike c s s') (plain : Plain s) (plain' : Plain s')
    {allowlist : Allowlist} (listed : Allowlist.ofPatterns c.allowlist = .ok allowlist)
    {paths : List Path} (found : (Targets.paths c.layout).inside s = .ok paths) :
    ∀ path ∈ paths, passesOver c.layout allowlist path = false →
      (Lookup.text path).inside s = (Lookup.text path).inside s' := by
  rw [inside_paths_eq] at found
  cases found
  intro path member kept
  rcases List.mem_cons.mp member with rfl | below
  · exact text_eq (alike.readme allowlist listed kept)
  · unfold Targets.markdownFiles at below
    rw [List.mem_mergeSort, mem_markdown plain.sound] at below
    obtain ⟨names, bytes, document, rfl⟩ := below
    obtain ⟨bytes', document'⟩ := (alike.documents names).mp ⟨bytes, document⟩
    obtain rfl := alike.contents allowlist listed names bytes bytes' document document' kept
    exact text_eq (document_state_eq plain plain' document document')

/-- Projects that are alike get the same result: the same run and the same warnings, or the same
error. -/
theorem inside_eq_of_alike (plain : Plain s) (plain' : Plain s') (alike : Alike c s s') :
    (ofConfig c).inside s = (ofConfig c).inside s' := by
  have withBaseline_eq (baseline : Option Version) :
      (withBaseline c baseline).inside s = (withBaseline c baseline).inside s' := by
    rw [inside_withBaseline, inside_withBaseline, ← paths_eq plain plain' alike.documents]
    cases listed : Allowlist.ofPatterns c.allowlist with
    | error e => rfl
    | ok allowlist =>
      cases found : (Targets.paths c.layout).inside s with
      | error e => rfl
      | ok paths =>
        have texts := alike.text_eq_of_mem plain plain' listed found
        simp only [Except.bind, read_eq texts]
  rw [inside_ofConfig, inside_ofConfig, alike.release_eq]
  congr 1
  cases ((Release.resolve c.baselineOverride c.layout.manifest).inside s').result with
  | error e => rfl
  | ok baseline => exact withBaseline_eq baseline

/-- A project with contents for a readme and a document that are passed over, and for a file that is
no document. -/
def variedProject (readme generated program : ByteArray) : Surroundings where
  tree := ⟨[(["p", "README.md"], .file readme),
    (["p", "docs", "guide.md"], .file "@Index(IndexType.A)".toUTF8),
    (["p", "docs", "api", "generated.md"], .file generated),
    (["p", "src", "main.rs"], .file program)]⟩
  workingDirectory := ["p"]

/-- A configuration that passes over the readme and the generated documents. -/
def variedConfig : DriftConfig where
  layout := .ofRoot ⟨"."⟩
  allowlist := ["README.md", "docs/api/*"]
  baselineOverride := some "1.2.3"

/-- The places of the varied project, which are the same for all contents. -/
def variedPlaces : List (List String) :=
  [["p", "README.md"], ["p", "docs", "guide.md"], ["p", "docs", "api", "generated.md"],
    ["p", "src", "main.rs"]]

/-- The varied project is a plain one, whatever its contents. -/
theorem varied_plain (readme generated program : ByteArray) :
    Plain (variedProject readme generated program) := by
  have sound : (variedProject readme generated program).tree.WellFormed := by
    apply FileTree.wellFormed_of_apart
    · show variedPlaces.Nodup
      decide
    · show ∀ place ∈ variedPlaces, ∀ name ∈ place, FileTree.IsEntryName name
      decide
    · show ∀ place ∈ variedPlaces, ∀ other ∈ variedPlaces, place <+: other → place = other
      decide
  refine ⟨sound, ?_⟩
  intro item member target
  simp only [variedProject, List.mem_cons, List.not_mem_nil, or_false] at member
  rcases member with rfl | rfl | rfl | rfl <;> exact nofun

/-- The documents directory of the varied project. -/
theorem varied_docs (readme generated program : ByteArray) :
    (variedProject readme generated program).tree.resolve ["p"] variedConfig.layout.docs =
      .ok (["p", "docs"], .directory) := by
  rfl

/-- The documents below the documents directory of the varied project. -/
theorem varied_documents (readme generated program : ByteArray) {names : List String}
    {bytes : ByteArray} :
    DocumentBelow (variedProject readme generated program) variedConfig.layout names bytes ↔
      names = ["guide.md"] ∧ bytes = "@Index(IndexType.A)".toUTF8 ∨
        names = ["api", "generated.md"] ∧ bytes = generated := by
  have plain := varied_plain readme generated program
  have docs := varied_docs readme generated program
  constructor
  · intro document
    obtain ⟨here, directory, member, _⟩ := document.isEntry plain.sound
    have same := docs.symm.trans directory
    obtain ⟨rfl, _⟩ : ["p", "docs"] = here ∧ _ := Prod.mk.inj (Except.ok.inj same)
    simpa [variedProject] using member
  · rintro (⟨rfl, rfl⟩ | ⟨rfl, rfl⟩)
    · exact ⟨⟨"guide.md", rfl, by decide⟩, ["p", "docs"], docs, rfl⟩
    · exact ⟨⟨"generated.md", rfl, by decide⟩, ["p", "docs"], docs, rfl⟩

/-- The readme and the generated document of the varied project are passed over. -/
theorem varied_passesOver {allowlist : Allowlist}
    (listed : Allowlist.ofPatterns variedConfig.allowlist = .ok allowlist) :
    passesOver variedConfig.layout allowlist variedConfig.layout.readme = true ∧
      passesOver variedConfig.layout allowlist
        (["api", "generated.md"].foldl Path.child variedConfig.layout.docs) = true := by
  have checked : (Allowlist.ofPatterns variedConfig.allowlist).toOption.all (fun allowlist =>
      passesOver variedConfig.layout allowlist variedConfig.layout.readme &&
        passesOver variedConfig.layout allowlist
          (["api", "generated.md"].foldl Path.child variedConfig.layout.docs)) = true := by
    decide +kernel
  rw [listed] at checked
  exact Bool.and_eq_true_iff.mp checked

/-- Varied projects are alike, also where what is passed over is no text. -/
theorem varied_alike (readme generated program readme' generated' program' : ByteArray) :
    Alike variedConfig (variedProject readme generated program)
      (variedProject readme' generated' program') := by
  refine ⟨?_, ?_, ?_, ?_⟩
  · intro names
    simp only [varied_documents]
    constructor
    · rintro ⟨bytes, ⟨rfl, _⟩ | ⟨rfl, _⟩⟩
      · exact ⟨_, .inl ⟨rfl, rfl⟩⟩
      · exact ⟨_, .inr ⟨rfl, rfl⟩⟩
    · rintro ⟨bytes, ⟨rfl, _⟩ | ⟨rfl, _⟩⟩
      · exact ⟨_, .inl ⟨rfl, rfl⟩⟩
      · exact ⟨_, .inr ⟨rfl, rfl⟩⟩
  · intro allowlist listed names bytes bytes' document document' kept
    rw [varied_documents] at document document'
    rcases document with ⟨rfl, rfl⟩ | ⟨rfl, rfl⟩
    · rcases document' with ⟨_, rfl⟩ | ⟨different, _⟩
      · rfl
      · exact absurd different (by decide)
    · exact absurd ((varied_passesOver listed).2.symm.trans kept) (by decide)
  · intro allowlist listed kept
    exact absurd ((varied_passesOver listed).1.symm.trans kept) (by decide)
  · intro none
    cases none

/-- The result for the varied project does not depend on what varies. -/
theorem varied_inside_eq :
    (ofConfig variedConfig).inside
        (variedProject "Title".toUTF8 "@Index(IndexType.B)".toUTF8 "fn main".toUTF8) =
      (ofConfig variedConfig).inside (variedProject ⟨#[0xFF]⟩ ⟨#[0x80]⟩ ⟨#[]⟩) :=
  inside_eq_of_alike (varied_plain _ _ _) (varied_plain _ _ _) (varied_alike _ _ _ _ _ _)

end DriftRun
end QualityGates
