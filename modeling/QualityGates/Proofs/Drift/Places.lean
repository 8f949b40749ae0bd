import QualityGates.Proofs.Config.Settings
import QualityGates.Proofs.Drift.Findings
import QualityGates.Proofs.Drift.Location
import QualityGates.Proofs.Number.Digits

/-!
# The place that a finding names

The location and the rule of a finding say where it was found. The documents of a project have
different names below its root, no number is written with a colon, and the rules of a run have
different identifiers, so no two findings of a run agree in both. Split at its last colon, a
location names one of the documents that were checked and one of its lines (`names_places`).
-/

namespace QualityGates

/-- The documents of a layout are where those of its root are. -/
structure Layout.IsDerived (l : Layout) : Prop where
  readme : l.readme = l.root.child "README.md"
  docs : l.docs = l.root.child "docs"

/-- Whatever steps are taken from a root, its documents stay where they are. -/
theorem DriftConfig.isDerived_ofSteps (root : Path) (steps : List DriftStep) :
    (ofSteps root steps).layout.IsDerived := by
  obtain ⟨atRoot, readme, docs, _⟩ := (isSetBy_ofSteps root steps).places
  exact ⟨by rw [readme, atRoot], by rw [docs, atRoot]⟩

namespace Drift

variable {s : Surroundings} {l : Layout} {p q : Path} {paths checked : List Path}
  {rules : List Rule} {f : Finding}

/-! ## The documents by their names below the root -/

/-- A path that names lead to from a root. -/
def LiesAt (root p : Path) (names : List String) : Prop :=
  names ≠ [] ∧ (∀ name ∈ names, Path.IsProper name) ∧ p = names.foldl Path.child root

/-- A path below the root of a layout is written as its names. -/
theorem LiesAt.relative_eq {names : List String} (lies : LiesAt l.root p names) :
    l.relative p = String.intercalate "/" names := by
  obtain ⟨_, proper, rfl⟩ := lies
  exact Path.relativeTo_foldl_child proper

/-- Paths below the root that are written alike are the same. -/
theorem LiesAt.eq_of_relative {names others : List String} (lies : LiesAt l.root p names)
    (lies' : LiesAt l.root q others) (same : l.relative p = l.relative q) : p = q := by
  rw [lies.relative_eq, lies'.relative_eq] at same
  obtain ⟨filled, proper, rfl⟩ := lies
  obtain ⟨filled', proper', rfl⟩ := lies'
  rw [Path.names_eq_of_intercalate filled filled' proper proper' same]

/-- The readme lies at its name. -/
theorem readme_liesAt (derived : l.IsDerived) : LiesAt l.root l.readme ["README.md"] :=
  ⟨List.cons_ne_nil _ _, by simpa using ⟨by decide, by decide⟩, derived.readme⟩

/-- A document below the documents directory lies at the name of that and the names below it. -/
theorem document_liesAt (derived : l.IsDerived) (sound : s.tree.WellFormed)
    {names : List String} {bytes : ByteArray} (document : DocumentBelow s l names bytes) :
    LiesAt l.root (names.foldl Path.child l.docs) ("docs" :: names) := by
  obtain ⟨_, _, _, _, proper⟩ := document.isEntry sound
  have docs : Path.IsProper "docs" := ⟨by decide, by decide⟩
  exact ⟨List.cons_ne_nil _ _, List.forall_mem_cons.mpr ⟨docs, proper⟩, by rw [derived.docs]; rfl⟩

/-- The documents of a project, with the names at which they lie, each once. -/
theorem paths_lieAt (derived : l.IsDerived) (sound : s.tree.WellFormed)
    (found : (Targets.paths l).inside s = .ok paths) :
    (∀ path ∈ paths, ∃ names, LiesAt l.root path names) ∧ paths.Nodup := by
  rw [inside_paths_eq] at found
  obtain rfl := Except.ok.inj found
  have listed : ∀ path ∈ Targets.markdownFiles (s.tree.filesBelow s.workingDirectory l.docs),
      ∃ names, LiesAt l.root path ("docs" :: names) := by
    intro path member
    have markdown := List.mem_mergeSort.mp member
    obtain ⟨names, bytes, document, rfl⟩ := (mem_markdown sound).mp markdown
    exact ⟨names, document_liesAt derived sound document⟩
  constructor
  · intro path member
    rcases List.mem_cons.mp member with rfl | member
    · exact ⟨_, readme_liesAt derived⟩
    · obtain ⟨names, lies⟩ := listed path member
      exact ⟨_, lies⟩
  · refine List.nodup_cons.mpr ⟨fun member => ?_, ?_⟩
    · obtain ⟨names, lies⟩ := listed _ member
      have same := (readme_liesAt derived).relative_eq.symm.trans lies.relative_eq
      have names := Path.names_eq_of_intercalate (List.cons_ne_nil _ _) (List.cons_ne_nil _ _)
        (readme_liesAt derived).2.1 lies.2.1 same
      exact absurd (List.cons.inj names).1 (by decide)
    · exact (List.mergeSort_perm _ _).nodup_iff.mpr (markdown_nodup sound)

/-- The documents of a project are written differently. -/
theorem relative_nodup (lie : ∀ path ∈ paths, ∃ names, LiesAt l.root path names)
    (once : paths.Nodup) : (paths.map l.relative).Nodup := by
  refine once.map_on fun p pIn q qIn same => ?_
  obtain ⟨names, lies⟩ := lie p pIn
  obtain ⟨others, lies'⟩ := lie q qIn
  exact lies.eq_of_relative lies' same

/-! ## Locations -/

/-- The texts in front of the last colon of a location and behind it. -/
def SplitsAtLastColon (location file number : String) : Prop :=
  location = file ++ ":" ++ number ∧ ':' ∉ number.toList

/-- There is one last colon. -/
theorem SplitsAtLastColon.unique {location file file' number number' : String}
    (splits : SplitsAtLastColon location file number)
    (splits' : SplitsAtLastColon location file' number') : file = file' ∧ number = number' := by
  have before {file number : String} (splits : SplitsAtLastColon location file number) :
      beforeLastColon location.toList = file.toList := by
    have noColon : ∀ c ∈ number.toList, (c != ':') = true := by
      intro c member
      rw [bne_iff_ne]
      rintro rfl
      exact splits.2 member
    rw [splits.1, String.toList_append, String.toList_append, List.append_assoc]
    exact beforeLastColon_append noColon
  have files : file = file' := String.toList_inj.mp ((before splits).symm.trans (before splits'))
  have whole := splits.1.symm.trans splits'.1
  rw [files] at whole
  have numbers : (file' ++ ":").toList ++ number.toList =
      (file' ++ ":").toList ++ number'.toList := by
    rw [← String.toList_append, whole, String.toList_append]
  exact ⟨files, String.toList_inj.mp (List.append_cancel_left numbers)⟩

/-- A number behind a path stands behind the last colon. -/
theorem splitsAtLastColon_number (file : String) (n : Nat) :
    SplitsAtLastColon (file ++ ":" ++ Number.natText n) file (Number.natText n) :=
  ⟨rfl, fun colon => by simpa using ne_colon_of_mem_natText colon⟩

/-- Members of a list whose keys differ stand at one position for each key. -/
theorem position_eq_of_key {α β : Type} {xs : List α} {key : α → β} (once : (xs.map key).Nodup)
    {i j : Nat} {x y : α} (first : xs[i]? = some x) (second : xs[j]? = some y)
    (same : key x = key y) : i = j := by
  have within : i < (xs.map key).length := by
    rw [List.length_map]
    exact (List.getElem?_eq_some_iff.mp first).1
  rw [← List.getElem?_inj within once, List.getElem?_map, List.getElem?_map, first, second]
  exact congrArg some same

/-- The location of what is found at a place splits into the document and the number of the line. -/
theorem FoundAt.splits {place : Nat × Nat × Nat} (here : FoundAt s l checked rules place f) :
    ∃ path rule, checked[place.1]? = some path ∧ rules[place.2.2]? = some rule ∧
      f.ruleId = rule.id ∧
      SplitsAtLastColon f.location (l.relative path) (Number.natText (place.2.1 + 1)) := by
  obtain ⟨path, _, rule, atPath, _, atRule, _, rfl⟩ := here
  exact ⟨path, rule, atPath, atRule, rfl, splitsAtLastColon_number _ _⟩

/-- What is found at a place tells the place by its location and its rule. -/
theorem place_eq_of_key (written : (checked.map l.relative).Nodup)
    (named : (rules.map Rule.id).Nodup) {place place' : Nat × Nat × Nat} {g : Finding}
    (here : FoundAt s l checked rules place f) (there : FoundAt s l checked rules place' g)
    (same : (f.location, f.ruleId) = (g.location, g.ruleId)) : place = place' := by
  obtain ⟨path, rule, atPath, atRule, id, splits⟩ := here.splits
  obtain ⟨path', rule', atPath', atRule', id', splits'⟩ := there.splits
  obtain ⟨locations, ids⟩ := Prod.mk.inj same
  rw [locations] at splits
  rw [id, id'] at ids
  obtain ⟨files, numbers⟩ := splits.unique splits'
  have lines := Number.natText_inj (congrArg String.toList numbers)
  have documents := position_eq_of_key written atPath atPath' files
  have ruleAt := position_eq_of_key named atRule atRule' ids
  exact Prod.ext documents (Prod.ext (Nat.succ.inj lines) ruleAt)

/-- No place comes before itself. -/
theorem not_placeBefore_self (place : Nat × Nat × Nat) : ¬ placeBefore place place := by
  unfold placeBefore
  simp only [Prod.lex_def]
  omega

end Drift

/-- The rules of a run have different identifiers. -/
theorem Rule.forDocs_ids_nodup (baseline : Option Version) (literals : List String) :
    ((Rule.forDocs baseline literals).map Rule.id).Nodup := by
  rw [DriftRun.forDocs_ids]
  cases Rule.stalePattern? baseline literals with
  | none => decide
  | some pattern =>
    show [Rule.staleVersionId, Rule.repositoryArityId, Rule.indexSyntaxId].Nodup
    decide

namespace DriftRun

open Drift

/-- A finding is about the line with a number in the document at a path, and about the one rule with
its identifier, which flags the line. -/
def IsAbout (s : Surroundings) (rules : List Rule) (f : Finding) (path : Path) (number : Nat) :
    Prop :=
  ∃ text lines line rule, (Lookup.text path).inside s = .ok text ∧
    Text.Lines text.toList lines ∧ 1 ≤ number ∧ number ≤ lines.length ∧
    lines[number - 1]? = some line ∧ rule ∈ rules ∧ rule.id = f.ruleId ∧
    (∀ other ∈ rules, other.id = f.ruleId → other = rule) ∧
    rule.flags (String.ofList line) = true

/-- What the findings of a run say about where they were found. -/
structure NamesPlaces (s : Surroundings) (l : Layout) (paths : List Path) (allowlist : Allowlist)
    (run : DriftRun) : Prop where
  /-- Every document is written as the names that lead to it from the root. -/
  written : ∀ path ∈ paths, ∃ names, names ≠ [] ∧ (∀ name ∈ names, Path.IsProper name) ∧
    path = names.foldl Path.child l.root ∧ l.relative path = String.intercalate "/" names
  /-- No two documents are written alike. -/
  different : (paths.map l.relative).Nodup
  /-- No two findings have the same location and the same rule. -/
  apart : (run.verdict.findings.map fun f => (f.location, f.ruleId)).Nodup
  /-- The location of a finding splits at its last colon into the only document that was checked and
  is written like this, and the number of a line of it that the rule of the finding flags. -/
  about : ∀ f ∈ run.verdict.findings, ∃ path ∈ keptPaths l allowlist paths, ∃ number,
    SplitsAtLastColon f.location (l.relative path) (Number.natText number) ∧
    (∀ other ∈ keptPaths l allowlist paths, ∀ behind,
      SplitsAtLastColon f.location (l.relative other) behind → other = path) ∧
    IsAbout s run.rules f path number

variable {s : Surroundings} {l : Layout} {c : DriftConfig} {run : DriftRun} {checked : List Path}
  {rules : List Rule} {f : Finding}

/-- What is found at a place is about the line and the rule there. -/
theorem isAbout_of_foundAt (named : (rules.map Rule.id).Nodup) {place : Nat × Nat × Nat}
    (here : FoundAt s l checked rules place f) :
    ∃ path, checked[place.1]? = some path ∧ IsAbout s rules f path (place.2.1 + 1) := by
  obtain ⟨path, line, rule, atPath, ⟨text, lines, read, made, atLine⟩, atRule, flagged, rfl⟩ := here
  have within : place.2.1 < lines.length := (List.getElem?_eq_some_iff.mp atLine).1
  have ruleIn := List.mem_of_getElem? atRule
  refine ⟨path, atPath, text, lines, line, rule, read, made, Nat.succ_pos _, within, atLine, ruleIn,
    rfl, fun other otherIn same => ?_, flagged⟩
  exact List.inj_on_of_nodup_map named otherIn ruleIn same

/-- Findings of a run that comes to a verdict name the places at which they were found. The
documents are written as their names below the root, and no two of them alike; no two findings agree
in their location and their rule; and a location splits at its last colon into the one document that
was checked and the number of a line of it that the rule flags. Every configuration that steps lead
to has such a layout (`DriftConfig.isDerived_ofSteps`). -/
theorem names_places (derived : c.layout.IsDerived) (sound : s.tree.WellFormed)
    (done : ((ofConfig c).inside s).result = .ok run) :
    ∃ paths allowlist, (Targets.paths c.layout).inside s = .ok paths ∧
      Allowlist.ofPatterns c.allowlist = .ok allowlist ∧
      NamesPlaces s c.layout paths allowlist run := by
  obtain ⟨allowlist, paths, targets, resolved, listed, made, found, read, built⟩ := result_ok done
  obtain ⟨documents, _⟩ := Targets.read_ok read
  obtain ⟨lie, once⟩ := paths_lieAt derived sound found
  have written := relative_nodup lie once
  have checkedOnce : ((keptPaths c.layout allowlist paths).map c.layout.relative).Nodup :=
    written.sublist (List.filter_sublist.map _)
  have named : (run.rules.map Rule.id).Nodup := by
    rw [(RuleSet.forDocs_eq_ok_iff.mp made).2]
    exact Rule.forDocs_ids_nodup _ _
  have findings : Listed placeBefore
      (FoundAt s c.layout (keptPaths c.layout allowlist paths) run.rules)
      run.verdict.findings := by
    rw [built]
    exact findings_listed documents
  refine ⟨paths, allowlist, found, listed, ?_, written, ?_, ?_⟩
  · intro path member
    obtain ⟨names, lies⟩ := lie path member
    exact ⟨names, lies.1, lies.2.1, lies.2.2, lies.relative_eq⟩
  · exact findings.nodup_map not_placeBefore_self
      fun _ _ _ _ here there => place_eq_of_key checkedOnce named here there
  · intro f member
    obtain ⟨place, here⟩ := (findings.mem_iff fun _ _ _ => FoundAt.unique).mp member
    obtain ⟨path, _, atPath, _, _, splits⟩ := here.splits
    obtain ⟨path', atPath', about⟩ := isAbout_of_foundAt named here
    cases atPath.symm.trans atPath'
    have checked := List.mem_of_getElem? atPath
    refine ⟨path, checked, _, splits, fun other otherIn behind splits' => ?_, about⟩
    exact List.inj_on_of_nodup_map checkedOnce otherIn checked (splits'.unique splits).1

/-- A project with a document that is named like a line of another one. -/
def colonProject : Surroundings where
  tree := ⟨[(["p", "README.md"], .file "Title\n@Index(IndexType.A)".toUTF8),
    (["p", "docs", "a b.md"], .file "no finding".toUTF8),
    (["p", "docs", "a.md"], .file "@Index(IndexType.B)".toUTF8),
    (["p", "docs", "a.md:1.md"], .file "\n@Index(IndexType.C)\n".toUTF8)]⟩
  workingDirectory := ["p"]

/-- A configuration of the project with a version. -/
def colonConfig : DriftConfig :=
  .ofSteps ⟨"/p"⟩ [.baselineOverride (some "1.2.3")]

/-- The documents of the project in order. -/
theorem colon_paths : (Targets.paths colonConfig.layout).inside colonProject =
    .ok [⟨"/p/README.md"⟩, ⟨"/p/docs/a b.md"⟩, ⟨"/p/docs/a.md"⟩, ⟨"/p/docs/a.md:1.md"⟩] := by
  have files : (colonProject.tree.filesBelow colonProject.workingDirectory
      colonConfig.layout.docs).filter Path.isMarkdown =
      [⟨"/p/docs/a b.md"⟩, ⟨"/p/docs/a.md"⟩, ⟨"/p/docs/a.md:1.md"⟩] := by decide +kernel
  exact inside_paths_of_sorted files (by decide +kernel)

/-- The run over the project completes with three findings. -/
theorem colon_locations : (((ofConfig colonConfig).inside colonProject).result.map
      fun run => run.verdict.findings.map Finding.location).toOption =
    some ["README.md:2", "docs/a.md:1", "docs/a.md:1.md:2"] := by
  have release : ((Release.resolve colonConfig.baselineOverride
      colonConfig.layout.manifest).inside colonProject).result = .ok (some ⟨1, 2, 3⟩) := rfl
  have small : Rule.SmallEnough colonConfig.staleVersions := by decide
  rw [result_of_resolved release, inside_withBaseline, RuleSet.forDocs_of_smallEnough small,
    colon_paths]
  decide +kernel

/-- The findings in the project name their places, also where a document is named like a line. -/
theorem colon_names_places : colonConfig.layout.IsDerived ∧ colonProject.tree.WellFormed ∧
    ∃ run, ((ofConfig colonConfig).inside colonProject).result = .ok run ∧
      run.verdict.findings.map Finding.location =
        ["README.md:2", "docs/a.md:1", "docs/a.md:1.md:2"] ∧
      ∃ paths allowlist, (Targets.paths colonConfig.layout).inside colonProject = .ok paths ∧
        Allowlist.ofPatterns colonConfig.allowlist = .ok allowlist ∧
        NamesPlaces colonProject colonConfig.layout paths allowlist run := by
  have derived : colonConfig.layout.IsDerived := DriftConfig.isDerived_ofSteps _ _
  have sound : colonProject.tree.WellFormed :=
    FileTree.wellFormed_of_apart (by decide) (by decide) (by decide)
  obtain ⟨run, done, locations⟩ := Except.map_eq_ok_iff.mp
    (Except.toOption_eq_some_iff.mp colon_locations)
  exact ⟨derived, sound, run, done, locations, names_places derived sound done⟩

end DriftRun
end QualityGates
