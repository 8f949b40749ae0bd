import QualityGates.Proofs.Drift.Documents
import QualityGates.Proofs.Drift.Run
import QualityGates.Proofs.Listing
import QualityGates.Proofs.Rule.Written
import QualityGates.Proofs.Text.Lines

/-!
# The findings of the drift gate

The gate reports exactly the places at which a rule flags a line of a document that it checks. A
place is a document, a line of it and a rule, each by its position, and findings come in the
lexicographic order of their places. The statement names the documents by their paths, the lines
by the terminators in the text, and the rules by their order in a run; it does not mention the
loops that go through them.
-/

namespace QualityGates
namespace Drift

/-- The line with a position in the text at a path. -/
def LineAt (s : Surroundings) (path : Path) (position : Nat) (line : List Char) : Prop :=
  ∃ text lines, (Lookup.text path).inside s = .ok text ∧ Text.Lines text.toList lines ∧
    lines[position]? = some line

/-- What is to be reported where a rule flags a line of a document. The place holds the positions
of the document among the paths that are checked, of the line in the document and of the rule among
the rules. -/
def FoundAt (s : Surroundings) (l : Layout) (checked : List Path) (rules : List Rule)
    (place : Nat × Nat × Nat) (f : Finding) : Prop :=
  ∃ path line rule, checked[place.1]? = some path ∧ LineAt s path place.2.1 line ∧
    rules[place.2.2]? = some rule ∧ rule.flags (String.ofList line) = true ∧
    f = { location := l.relative path ++ ":" ++ Number.natText (place.2.1 + 1)
          ruleId := rule.id
          message := rule.message
          detail := none }

/-- Documents come before lines, and lines before rules. -/
def placeBefore : Nat × Nat × Nat → Nat × Nat × Nat → Prop :=
  Prod.Lex (fun i j : Nat => i < j) (Prod.Lex (fun i j : Nat => i < j) (fun i j : Nat => i < j))

variable {s : Surroundings} {l : Layout} {path : Path} {paths : List Path} {rules : List Rule}
  {d : Document} {documents : List Document} {f : Finding}

/-- The line at a position has the number that follows the numbers before it. -/
theorem numbered_getElem? (first position : Nat) (lines : List (List Char)) :
    (Document.numbered first lines)[position]? =
      lines[position]?.map fun line => ⟨first + position, String.ofList line⟩ := by
  induction lines generalizing first position with
  | nil => rfl
  | cons line lines ih =>
    cases position with
    | zero => rfl
    | succ position =>
      rw [Document.numbered, List.getElem?_cons_succ, List.getElem?_cons_succ, ih]
      rw [show first + 1 + position = first + (position + 1) by omega]

/-- The lines of a document are those of the text that it was read from. -/
theorem ReadAs.line_iff (read : ReadAs s l path d) {position : Nat} {line : DocLine} :
    d.lines[position]? = some line ↔
      ∃ cs, LineAt s path position cs ∧ line = ⟨position + 1, String.ofList cs⟩ := by
  obtain ⟨text, found, rfl⟩ := read
  rw [Document.ofText, numbered_getElem?, Option.map_eq_some_iff]
  constructor
  · rintro ⟨cs, there, rfl⟩
    exact ⟨cs, ⟨text, _, found, Text.lines_made _, there⟩, by rw [Nat.add_comm 1 position]⟩
  · rintro ⟨cs, ⟨text', lines, found', made, there⟩, rfl⟩
    obtain rfl := Except.ok.inj (found.symm.trans found')
    rw [← made.lines_eq] at there
    exact ⟨cs, there, by rw [Nat.add_comm 1 position]⟩

/-- The documents that were read stand at the positions of their paths. -/
theorem document_iff (read : List.Forall₂ (ReadAs s l) paths documents) {position : Nat} :
    (∀ {d}, documents[position]? = some d →
      ∃ path, paths[position]? = some path ∧ ReadAs s l path d) ∧
    (∀ {path}, paths[position]? = some path →
      ∃ d, documents[position]? = some d ∧ ReadAs s l path d) := by
  induction read generalizing position with
  | nil => exact ⟨fun h => by simp at h, fun h => by simp at h⟩
  | @cons path d paths documents here _ ih =>
    cases position with
    | zero =>
      refine ⟨fun h => ⟨path, rfl, ?_⟩, fun h => ⟨d, rfl, ?_⟩⟩
      · obtain rfl : d = _ := by simpa using h
        exact here
      · obtain rfl : path = _ := by simpa using h
        exact here
    | succ position => exact ih

/-- The findings in documents that were read are those at the places where rules flag lines. -/
theorem findings_listed (read : List.Forall₂ (ReadAs s l) paths documents) :
    Listed placeBefore (FoundAt s l paths rules) (findings rules documents) := by
  have loops : Listed placeBefore (fun place f => ∃ d, documents[place.1]? = some d ∧
      ∃ line, d.lines[place.2.1]? = some line ∧ ∃ rule, rules[place.2.2]? = some rule ∧
        rule.flags line.text = true ∧ f = finding d.path line rule)
      (findings rules documents) :=
    Listed.flatMap fun d _ => Listed.flatMap fun line _ => Listed.filter_map
  refine loops.congr fun ⟨i, j, k⟩ f => ?_
  constructor
  · rintro ⟨d, atDocument, line, atLine, rule, atRule, flagged, rfl⟩
    obtain ⟨path, atPath, here⟩ := (document_iff read).1 atDocument
    obtain ⟨cs, there, rfl⟩ := here.line_iff.mp atLine
    obtain ⟨text, _, rfl⟩ := here
    exact ⟨path, cs, rule, atPath, there, atRule, flagged, rfl⟩
  · rintro ⟨path, cs, rule, atPath, there, atRule, flagged, rfl⟩
    obtain ⟨d, atDocument, here⟩ := (document_iff read).2 atPath
    refine ⟨d, atDocument, _, here.line_iff.mpr ⟨cs, there, rfl⟩, rule, atRule, flagged, ?_⟩
    obtain ⟨text, _, rfl⟩ := here
    rfl

/-- At one place, one thing is reported. -/
theorem FoundAt.unique {place : Nat × Nat × Nat} {g : Finding}
    (here : FoundAt s l paths rules place f) (there : FoundAt s l paths rules place g) : f = g := by
  obtain ⟨path, _, rule, atPath, _, atRule, _, rfl⟩ := here
  obtain ⟨path', _, rule', atPath', _, atRule', _, rfl⟩ := there
  cases atPath.symm.trans atPath'
  cases atRule.symm.trans atRule'
  rfl

/-- What is found in documents that were read is what stands at the places. -/
theorem mem_findings_iff (read : List.Forall₂ (ReadAs s l) paths documents) :
    f ∈ findings rules documents ↔ ∃ place, FoundAt s l paths rules place f :=
  (findings_listed read).mem_iff fun _ _ _ => FoundAt.unique

end Drift

namespace DriftRun

open Drift

/-- What a run says about the paths of the documents of a project, some of which an allow-list
passes over. -/
structure Reports (s : Surroundings) (c : DriftConfig) (paths : List Path) (allowlist : Allowlist)
    (run : DriftRun) : Prop where
  /-- The version is the one that the project has. -/
  baseline : ((Release.resolve c.baselineOverride c.layout.manifest).inside s).result =
    .ok run.baseline
  /-- The rules are those for that version. -/
  rules : RuleSet.forDocs run.baseline c.staleVersions = .ok run.rules
  /-- The rule for stale versions, if there is one, comes before the other two. -/
  ruleIds : run.rules.map Rule.id =
    (Rule.stalePattern? run.baseline c.staleVersions).toList.map (fun _ => "stale-version") ++
      ["invalid-memrisrepository-arity", "invalid-index-annotation-syntax"]
  /-- The paths that were passed over, in order. -/
  allowlisted : run.allowlisted =
    (paths.filter (passesOver c.layout allowlist)).map c.layout.relative
  /-- Every other path was read. -/
  readable : ∀ path ∈ keptPaths c.layout allowlist paths,
    ∃ text, (Lookup.text path).inside s = .ok text
  /-- The verdict is one of this gate. -/
  gate : run.verdict.gate = .docsDrift
  /-- The paths that were read are counted. -/
  examined : run.verdict.targetsExamined = (keptPaths c.layout allowlist paths).length
  /-- The findings are those at the places where a rule flags a line, in the order of the places. -/
  findings : Listed placeBefore
    (FoundAt s c.layout (keptPaths c.layout allowlist paths) run.rules) run.verdict.findings
  /-- The verdict passes when no rule flags any line. -/
  passed : run.verdict.passed = true ↔
    ∀ path ∈ keptPaths c.layout allowlist paths, ∀ position line, LineAt s path position line →
      ∀ rule ∈ run.rules, rule.flags (String.ofList line) = false

/-- The identifiers of the rules of a run. -/
theorem forDocs_ids (baseline : Option Version) (literals : List String) :
    (Rule.forDocs baseline literals).map Rule.id =
      (Rule.stalePattern? baseline literals).toList.map (fun _ => Rule.staleVersionId) ++
        [Rule.repositoryArityId, Rule.indexSyntaxId] := by
  unfold Rule.forDocs Rule.staleVersion?
  cases Rule.stalePattern? baseline literals <;> rfl

/-- A run that comes to a verdict reports every match of a rule in the documents that it does not
pass over, in order and once, and nothing else. -/
theorem reports_every_match {s : Surroundings} {c : DriftConfig} {run : DriftRun}
    (done : ((ofConfig c).inside s).result = .ok run) :
    ∃ paths allowlist, (Targets.paths c.layout).inside s = .ok paths ∧
      Allowlist.ofPatterns c.allowlist = .ok allowlist ∧ Reports s c paths allowlist run := by
  obtain ⟨allowlist, paths, targets, resolved, listed, made, found, read, built⟩ := result_ok done
  obtain ⟨documents, passedOver⟩ := Targets.read_ok read
  have findings : Listed placeBefore
      (FoundAt s c.layout (keptPaths c.layout allowlist paths) run.rules)
      run.verdict.findings := by
    rw [built]
    exact findings_listed documents
  refine ⟨paths, allowlist, found, listed, resolved, made, ?_, ?_, ?_, ?_, ?_, findings, ?_⟩
  · rw [(RuleSet.forDocs_eq_ok_iff.mp made).2]
    exact forDocs_ids _ _
  · rw [built]; exact passedOver
  · intro path member
    obtain ⟨position, there⟩ := List.mem_iff_getElem?.mp member
    obtain ⟨d, _, text, readable, _⟩ := (document_iff documents).2 there
    exact ⟨text, readable⟩
  · rw [built]; rfl
  · rw [built]; exact documents.length_eq.symm
  · have empty : run.verdict.passed = true ↔ run.verdict.findings = [] := by
      rw [built]; exact List.isEmpty_iff
    rw [empty, findings.eq_nil_iff]
    constructor
    · intro nothing path member position line there rule ruleIn
      obtain ⟨i, atPath⟩ := List.mem_iff_getElem?.mp member
      obtain ⟨k, atRule⟩ := List.mem_iff_getElem?.mp ruleIn
      refine Bool.eq_false_iff.mpr fun flagged => ?_
      exact nothing (i, position, k) _ ⟨path, line, rule, atPath, there, atRule, flagged, rfl⟩
    · rintro silent place f ⟨path, line, rule, atPath, there, atRule, flagged, _⟩
      have clear := silent path (List.mem_of_getElem? atPath) _ line there rule
        (List.mem_of_getElem? atRule)
      exact Bool.false_ne_true (clear.symm.trans flagged)

/-- A project with a malformed annotation in each of its documents. -/
def sampleProject : Surroundings where
  tree := ⟨[(["p", "README.md"], .file "Title\n@Index(IndexType.A)\r\n".toUTF8),
    (["p", "docs", "a.md"], .file "@Index(IndexType.A)".toUTF8),
    (["p", "docs", "b.md"], .file "see 1.1.9 and @Index( IndexType.B)".toUTF8)]⟩
  workingDirectory := ["p"]

/-- A configuration that passes over one of the documents. -/
def sampleConfig : DriftConfig where
  layout := .ofRoot ⟨"/p"⟩
  allowlist := ["docs/a*"]
  baselineOverride := some "1.2.3"

/-- The documents of the project in order. -/
theorem sample_paths : (Targets.paths sampleConfig.layout).inside sampleProject =
    .ok [⟨"/p/README.md"⟩, ⟨"/p/docs/a.md"⟩, ⟨"/p/docs/b.md"⟩] := by
  have files : (sampleProject.tree.filesBelow sampleProject.workingDirectory
      sampleConfig.layout.docs).filter Path.isMarkdown =
      [⟨"/p/docs/a.md"⟩, ⟨"/p/docs/b.md"⟩] := by decide +kernel
  exact inside_paths_of_sorted files (by decide +kernel)

/-- The sample run completes. -/
theorem sample_completes : ((ofConfig sampleConfig).inside sampleProject).result.isOk = true := by
  have release : ((Release.resolve sampleConfig.baselineOverride
      sampleConfig.layout.manifest).inside sampleProject).result = .ok (some ⟨1, 2, 3⟩) := rfl
  have small : Rule.SmallEnough sampleConfig.staleVersions := by decide
  rw [result_of_resolved release, inside_withBaseline, RuleSet.forDocs_of_smallEnough small,
    sample_paths]
  decide +kernel

/-- The run over the sample project reports what it has to. -/
theorem sample_reports : ∃ run, ((ofConfig sampleConfig).inside sampleProject).result = .ok run ∧
    ∃ paths allowlist, (Targets.paths sampleConfig.layout).inside sampleProject = .ok paths ∧
      Allowlist.ofPatterns sampleConfig.allowlist = .ok allowlist ∧
      Reports sampleProject sampleConfig paths allowlist run := by
  obtain ⟨run, done⟩ := Except.exists_of_isOk sample_completes
  exact ⟨run, done, reports_every_match done⟩

end DriftRun
end QualityGates
