import QualityGates.Proofs.Drift.Noninterference

/-!
# What the working directory is for

The working directory matters where relative paths are resolved and nowhere else. All places of a
project whose root is an absolute path are absolute ones, also a manifest that is named by a
relative path, so the drift gate finds the same from wherever it is run.
-/

namespace QualityGates

namespace Path

variable {p : Path}

/-- What is seen from an absolute path has an absolute path. -/
theorem isAbsolute_join (absolute : p.isAbsolute = true) (q : Path) :
    (p.join q).isAbsolute = true := by
  have front (more : String) : isAbsolute ⟨p.text ++ more⟩ = true := by
    unfold isAbsolute at absolute ⊢
    rw [String.toList_append, List.head?_append, beq_iff_eq.mp absolute]
    rfl
  unfold join
  split
  · assumption
  · split
    · exact front q.text
    · rw [String.append_assoc]
      exact front ("/" ++ q.text)

/-- So are the paths of what is below it. -/
theorem isAbsolute_below (absolute : p.isAbsolute = true) (names : List String) :
    (names.foldl child p).isAbsolute = true := by
  induction names generalizing p with
  | nil => exact absolute
  | cons name names ih => exact ih (isAbsolute_join absolute ⟨name⟩)

end Path

/-- All places of a project are absolute paths. -/
structure Layout.IsAbsolute (l : Layout) : Prop where
  readme : l.readme.isAbsolute = true
  docs : l.docs.isAbsolute = true
  manifest : l.manifest.isAbsolute = true
  root : l.root.isAbsolute = true

/-- The places of a project with an absolute root are absolute. -/
theorem Layout.isAbsolute_ofRoot {root : Path} (absolute : root.isAbsolute = true) :
    (Layout.ofRoot root).IsAbsolute :=
  ⟨Path.isAbsolute_join absolute _, Path.isAbsolute_join absolute _,
    Path.isAbsolute_join absolute _, absolute⟩

namespace DriftConfig

/-- A step keeps the places of a project absolute. -/
theorem isAbsolute_step {c : DriftConfig} (absolute : c.layout.IsAbsolute) (step : DriftStep) :
    (c.step step).layout.IsAbsolute := by
  have manifest {c : DriftConfig} (absolute : c.layout.IsAbsolute) (path : Option Path) :
      (c.setManifest path).layout.IsAbsolute := by
    cases path with
    | none => exact absolute
    | some path => exact { absolute with manifest := Path.isAbsolute_join absolute.root path }
  have literals {c : DriftConfig} (absolute : c.layout.IsAbsolute) (texts : List String) :
      (c.setLiterals texts).layout.IsAbsolute := by
    unfold setLiterals
    split <;> exact absolute
  cases step with
  | fileSection s =>
    have inner : (((c.addGlobs s.allowlist).setManifest (s.manifest.map Path.mk)).setBaseline
        s.baselineVersion).layout.IsAbsolute := manifest (c := c.addGlobs s.allowlist) absolute _
    exact literals inner s.staleVersions
  | allowlist globs => exact absolute
  | baselineOverride version => exact absolute
  | staleVersions texts => exact literals absolute texts
  | manifest path => exact manifest absolute path

/-- Whatever steps are taken, a project with an absolute root has absolute places. -/
theorem isAbsolute_ofSteps {root : Path} (absolute : root.isAbsolute = true)
    (steps : List DriftStep) : (ofSteps root steps).layout.IsAbsolute := by
  suffices general : ∀ c : DriftConfig, c.layout.IsAbsolute →
      (steps.foldl step c).layout.IsAbsolute from
    general (ofRoot root) (Layout.isAbsolute_ofRoot absolute)
  induction steps with
  | nil => exact fun c absolute => absolute
  | cons step steps ih => exact fun c absolute => ih _ (isAbsolute_step absolute step)

end DriftConfig

variable {tree : FileTree} {cwd cwd' : List String} {p : Path} {l : Layout}

/-! ## Looking up absolute paths -/

/-- An absolute path leads to the same place from everywhere. -/
theorem FileTree.resolve_of_absolute (absolute : p.isAbsolute = true) :
    tree.resolve cwd p = tree.resolve cwd' p := by
  unfold resolve
  rw [if_pos absolute, if_pos absolute]

/-- It leads to the same thing. -/
theorem FileTree.state_of_absolute (absolute : p.isAbsolute = true) :
    tree.state cwd p = tree.state cwd' p := by
  unfold state
  rw [resolve_of_absolute absolute]

namespace Drift

/-- The documents of a project with absolute places have absolute paths, the same from
everywhere. -/
theorem paths_of_absolute (absolute : l.IsAbsolute) :
    ∃ paths, (∀ path ∈ paths, path.isAbsolute = true) ∧
      (Targets.paths l).inside ⟨tree, cwd⟩ = .ok paths ∧
      (Targets.paths l).inside ⟨tree, cwd'⟩ = .ok paths := by
  have same : tree.filesBelow cwd' l.docs = tree.filesBelow cwd l.docs := by
    unfold FileTree.filesBelow
    rw [FileTree.resolve_of_absolute absolute.docs]
  refine ⟨l.readme :: Targets.markdownFiles (tree.filesBelow cwd l.docs), ?_, ?_, ?_⟩
  · intro path member
    rcases List.mem_cons.mp member with rfl | listed
    · exact absolute.readme
    · have below : path ∈ tree.filesBelow cwd l.docs :=
        List.mem_of_mem_filter (List.mem_mergeSort.mp listed)
      unfold FileTree.filesBelow at below
      split at below
      · obtain ⟨names, _, rfl⟩ := List.mem_map.mp below
        exact Path.isAbsolute_below absolute.docs names
      · cases below
  · rw [inside_paths_eq]
  · rw [inside_paths_eq, ← same]

end Drift

/-- The drift gate gets the same result from everywhere when the places of the project are
absolute. -/
theorem DriftRun.inside_of_absolute {c : DriftConfig} (absolute : c.layout.IsAbsolute) :
    (ofConfig c).inside ⟨tree, cwd⟩ = (ofConfig c).inside ⟨tree, cwd'⟩ := by
  have release : (Release.resolve c.baselineOverride c.layout.manifest).inside ⟨tree, cwd⟩ =
      (Release.resolve c.baselineOverride c.layout.manifest).inside ⟨tree, cwd'⟩ :=
    Release.inside_resolve_eq fun _ => FileTree.state_of_absolute absolute.manifest
  obtain ⟨paths, allAbsolute, found, found'⟩ := @Drift.paths_of_absolute tree cwd cwd' _ absolute
  have documents (baseline : Option Version) :
      (withBaseline c baseline).inside ⟨tree, cwd⟩ =
        (withBaseline c baseline).inside ⟨tree, cwd'⟩ := by
    rw [inside_withBaseline, inside_withBaseline, found, found']
    congr 1
    funext allowlist
    have read : (Drift.Targets.read c.layout allowlist paths).inside ⟨tree, cwd⟩ =
        (Drift.Targets.read c.layout allowlist paths).inside ⟨tree, cwd'⟩ :=
      Drift.read_eq fun path member _ =>
        Drift.text_eq (FileTree.state_of_absolute (allAbsolute path member))
    simp only [Except.bind, read]
  rw [inside_ofConfig, inside_ofConfig, release, funext documents]

end QualityGates
