import QualityGates.Proofs.Allowlist
import QualityGates.Proofs.CommandLine.Arguments
import QualityGates.Proofs.CommandLine.Execution
import QualityGates.Proofs.CommandLine.RuleListing
import QualityGates.Proofs.Drift.Noninterference
import QualityGates.Proofs.Release

/-!
# What a listing of rules tells about the drift gate

The two commands for documents share their options, the layering of their configuration, the
resolution of the version and the making of the rules, so a listing shows the rules and the globs
that the gate works with. The listing stops there: it reads no document.
-/

namespace QualityGates

open Drift (passesOver keptPaths)

namespace CommandLine

variable {s s' : Surroundings} {o : DriftOptions} {json : Bool} {c : DriftConfig}
  {run : DriftRun}

/-! ## Commands with the same options -/

/-- The command that lists the rules of a drift gate. -/
def Command.listing : Command → Command
  | .docsDrift o json => .listRules o json
  | c => c

/-- The invocation that lists the rules of a drift gate. -/
def Invocation.listing : Invocation → Invocation
  | .run c => .run c.listing
  | i => i

/-- Arguments are taken by the one command for documents as by the other. -/
theorem Invocation.ofCommand_listing (env : Environment) (args : List String) :
    ofCommand env "list-rules" args = (ofCommand env "docs-drift" args).listing := by
  rw [ofCommand_docsDrift, ofCommand_listRules]
  cases driftGrammar.read {} args <;> rfl

/-! ## Listings and runs -/

/-- A finding is reported by a rule. -/
theorem rule_of_mem_findings {rules : List Rule} {documents : List Document} {finding : Finding}
    (member : finding ∈ Drift.findings rules documents) :
    ∃ rule ∈ rules, finding.ruleId = rule.id ∧ finding.message = rule.message := by
  obtain ⟨document, _, inDocument⟩ := List.mem_flatMap.mp member
  obtain ⟨line, _, inLine⟩ := List.mem_flatMap.mp inDocument
  obtain ⟨rule, flagging, rfl⟩ := List.mem_map.mp inLine
  exact ⟨rule, (List.mem_filter.mp flagging).1, rfl, rfl⟩

/-- What a listing tells about a run of the drift gate. -/
structure RuleListing.Tells (l : RuleListing) (s : Surroundings) (c : DriftConfig)
    (run : DriftRun) : Prop where
  baseline : l.baseline = run.baseline.map Version.text
  rules : l.rules = run.rules
  /-- The documents of the project are divided by the globs of the listing. -/
  filtered : ∃ allowlist paths, Allowlist.ofPatterns l.allowlist = .ok allowlist ∧
    (Drift.Targets.paths c.layout).inside s = .ok paths ∧
    run.allowlisted = (paths.filter (passesOver c.layout allowlist)).map c.layout.relative ∧
    run.verdict.targetsExamined = (keptPaths c.layout allowlist paths).length
  /-- Every finding is one of a rule of the listing. -/
  findings : ∀ finding ∈ run.verdict.findings,
    ∃ rule ∈ l.rules, finding.ruleId = rule.id ∧ finding.message = rule.message

/-- The listing for the version and the rules of a run tells about that run. -/
theorem ruleListing_tells (done : ((DriftRun.ofConfig c).inside s).result = .ok run) :
    (ruleListing c run.baseline run.rules).Tells s c run := by
  obtain ⟨allowlist, paths, targets, _, listed, _, found, read, built⟩ := DriftRun.result_ok done
  obtain ⟨documents, passedOver⟩ := Drift.Targets.read_ok read
  refine ⟨rfl, rfl, ⟨allowlist, paths, listed, found, ?_, ?_⟩, ?_⟩
  · rw [built]
    exact passedOver
  · rw [built]
    exact documents.length_eq.symm
  · intro finding member
    rw [built] at member
    exact rule_of_mem_findings member

/-- A gate that is not aborted has a configuration with which it comes to a verdict. -/
theorem run_of_docsDrift (completed : ((docsDrift o json).inside s).status ≠ .fatal) :
    ∃ c run, (driftConfig o).inside s = .ok c ∧
      ((DriftRun.ofConfig c).inside s).result = .ok run := by
  cases layered : (driftConfig o).inside s with
  | error f =>
    rw [inside_docsDrift_error layered] at completed
    exact absurd rfl completed
  | ok c =>
    rw [inside_docsDrift_ok layered, Judgement.status_ne_fatal_iff] at completed
    obtain ⟨v, judged⟩ := completed
    obtain ⟨run, done, _⟩ := Except.map_eq_ok_iff.mp (Except.mapError_eq_ok_iff.mp judged)
    exact ⟨c, run, rfl, done⟩

/-- A gate that comes to a verdict reports it. -/
theorem docsDrift_of_run (layered : (driftConfig o).inside s = .ok c)
    (done : ((DriftRun.ofConfig c).inside s).result = .ok run) :
    (docsDrift o json).inside s =
      .ofVerdict run.verdict json ((DriftRun.ofConfig c).inside s).warnings := by
  rw [inside_docsDrift_ok layered]
  unfold judgeDocuments Judgement.outcome
  rw [done]
  rfl

/-- A listing comes to what looking for the version and making the rules come to. -/
theorem listRules_of_result {result : Except GateError (Option Version)}
    (layered : (driftConfig o).inside s = .ok c)
    (release : ((Release.resolve c.baselineOverride c.layout.manifest).inside s).result = result) :
    (listRules o json).inside s =
      listingOutcome c json ⟨((DriftRun.ofConfig c).inside s).warnings, result⟩ := by
  rw [inside_listRules_ok layered, DriftRun.inside_ofConfig, ← release]

/-- With the rules of a run, a listing ends well. -/
theorem listRules_of_run (layered : (driftConfig o).inside s = .ok c)
    (done : ((DriftRun.ofConfig c).inside s).result = .ok run) :
    (listRules o json).inside s =
      .finished .pass ((ruleListing c run.baseline run.rules).report json)
        ((DriftRun.ofConfig c).inside s).warnings := by
  obtain ⟨_, _, _, resolved, _, made, _⟩ := DriftRun.result_ok done
  rw [listRules_of_result layered resolved]
  unfold listingOutcome
  dsimp only
  rw [made]

/-- A listing that is aborted means a gate that is aborted, since it ends well with the rules of a
run. -/
theorem docsDrift_fatal_of_listRules (aborted : ((listRules o json).inside s).status = .fatal) :
    ((docsDrift o json).inside s).status = .fatal := by
  by_contra completed
  obtain ⟨c, run, layered, done⟩ := run_of_docsDrift completed
  rw [listRules_of_run layered done] at aborted
  cases aborted

/-! ## What a listing depends on -/

/-- The configuration file of a project with a root. -/
def configPath (o : DriftOptions) (root : Path) : Path :=
  (o.config.map Path.mk).getD (Layout.ofRoot root).config

/-- A configuration file in the same state is loaded alike. -/
theorem inside_load_eq {path : Path}
    (same : s.tree.state s.workingDirectory path = s'.tree.state s'.workingDirectory path) :
    (ConfigFile.load path).inside s = (ConfigFile.load path).inside s' := by
  unfold ConfigFile.load
  rw [Lookup.inside_bind, Lookup.inside_bind, Lookup.inside_requiredText,
    Lookup.inside_requiredText, Drift.text_eq same]
  rfl

/-- A configuration file in the same state is there or not there alike. -/
theorem inside_loadIfPresent_eq {path : Path}
    (same : s.tree.state s.workingDirectory path = s'.tree.state s'.workingDirectory path) :
    (ConfigFile.loadIfPresent path).inside s = (ConfigFile.loadIfPresent path).inside s' := by
  have file : s.answer (.isFile path) = s'.answer (.isFile path) := by
    show s.tree.isFile _ _ = s'.tree.isFile _ _
    rw [FileTree.isFile_eq, FileTree.isFile_eq, same]
  unfold ConfigFile.loadIfPresent
  rw [Lookup.inside_bind, Lookup.inside_bind, Lookup.inside_question, Lookup.inside_question, file]
  split
  · rw [Lookup.inside_bind, Lookup.inside_bind, inside_load_eq same]
    rfl
  · rfl

/-- The configuration is loaded alike from a file in the same state. -/
theorem inside_loadConfig_eq {root : Path}
    (same : s.tree.state s.workingDirectory (configPath o root) =
      s'.tree.state s'.workingDirectory (configPath o root)) :
    (loadConfig o.config (some (Layout.ofRoot root).config)).inside s =
      (loadConfig o.config (some (Layout.ofRoot root).config)).inside s' := by
  unfold configPath at same
  cases named : o.config with
  | some name =>
    rw [named, Option.map_some, Option.getD_some] at same
    unfold loadConfig
    rw [Lookup.inside_bind, Lookup.inside_bind, inside_load_eq same]
    rfl
  | none =>
    rw [named, Option.map_none, Option.getD_none] at same
    unfold loadConfig
    rw [Lookup.inside_bind, Lookup.inside_bind, inside_loadIfPresent_eq same]
    rfl

/-- Whether a listing finds the same in other surroundings: the root, the configuration file and,
unless a version is given, the manifest. -/
structure Unchanged (o : DriftOptions) (s s' : Surroundings) : Prop where
  root : (resolveRoot o.root).inside s' = (resolveRoot o.root).inside s
  config : s'.tree.state s'.workingDirectory (configPath o ((resolveRoot o.root).inside s)) =
    s.tree.state s.workingDirectory (configPath o ((resolveRoot o.root).inside s))
  manifest : ∀ c, (driftConfig o).inside s = .ok c → c.baselineOverride = none →
    s'.tree.state s'.workingDirectory c.layout.manifest =
      s.tree.state s.workingDirectory c.layout.manifest

/-- Nothing else changes a listing. -/
theorem inside_listRules_eq (unchanged : Unchanged o s s') :
    (listRules o json).inside s' = (listRules o json).inside s := by
  have same : (driftConfig o).inside s' = (driftConfig o).inside s := by
    rw [inside_driftConfig, inside_driftConfig, unchanged.root,
      inside_loadConfig_eq unchanged.config]
  cases layered : (driftConfig o).inside s with
  | error f =>
    rw [inside_listRules_error (same.trans layered), inside_listRules_error layered]
  | ok c =>
    have release : (Release.resolve c.baselineOverride c.layout.manifest).inside s' =
        (Release.resolve c.baselineOverride c.layout.manifest).inside s :=
      Release.inside_resolve_eq (unchanged.manifest c layered)
    rw [inside_listRules_ok (same.trans layered), inside_listRules_ok layered, release]

/-- Listing rules takes the arguments of the drift gate and tells what the gate does. Where the gate
comes to a verdict, the listing ends well, with the same warnings, and shows the version, the globs
and the rules of the run, as text or in JSON that can be read back. A listing is only aborted where
the gate is, and it depends on neither the readme nor the documents. -/
theorem listing_tells (s : Surroundings) (o : DriftOptions) (json : Bool) :
    (∀ env args, Invocation.ofCommand env "list-rules" args =
      (Invocation.ofCommand env "docs-drift" args).listing) ∧
    (((docsDrift o json).inside s).status ≠ .fatal →
      ∃ c run warnings, ∃ listing : RuleListing, (driftConfig o).inside s = .ok c ∧
        (DriftRun.ofConfig c).inside s = ⟨warnings, .ok run⟩ ∧ listing.Tells s c run ∧
        listing.allowlist = c.allowlist ∧
        (docsDrift o json).inside s = .ofVerdict run.verdict json warnings ∧
        (listRules o json).inside s = .finished .pass (listing.report json) warnings ∧
        listing.report false =
          "Baseline version: " ++ (run.baseline.map Version.text).getD "(none)" ++ "\n" ++
            (if c.allowlist = [] then ""
              else "Allow-list: " ++ String.intercalate ", " c.allowlist ++ "\n") ++
            "Rules:\n" ++
            String.join (run.rules.map fun r => "- " ++ r.id ++ ": " ++ r.source ++ "\n") ∧
        Json.ofText (listing.report true) = .ok (.object
          [("baseline", ((run.baseline.map Version.text).map Json.string).getD .null),
            ("allowlist", .array (c.allowlist.map .string)),
            ("rules", .array (run.rules.map fun r => .object
              [("id", .string r.id), ("pattern", .string r.source),
                ("message", .string r.message)]))])) ∧
    (((listRules o json).inside s).status = .fatal →
      ((docsDrift o json).inside s).status = .fatal) ∧
    ∀ s', Unchanged o s s' → (listRules o json).inside s' = (listRules o json).inside s := by
  refine ⟨Invocation.ofCommand_listing, fun completed => ?_, docsDrift_fatal_of_listRules,
    fun s' => inside_listRules_eq⟩
  obtain ⟨c, run, layered, done⟩ := run_of_docsDrift completed
  have ran : (DriftRun.ofConfig c).inside s =
      ⟨((DriftRun.ofConfig c).inside s).warnings, .ok run⟩ := by
    rw [← done]
  exact ⟨c, run, _, ruleListing c run.baseline run.rules, layered, ran, ruleListing_tells done, rfl,
    docsDrift_of_run layered done, listRules_of_run layered done, RuleListing.text_eq _,
    RuleListing.ofText_report_eq _⟩

/-- A project with a manifest, a configuration file that names it, and some documents. -/
def listedProject (documents : List (List String × Entry)) : Surroundings where
  tree := ⟨[(["p", "ci-gates.yaml"], .file "docs_drift: \x7bmanifest: pom.xml\x7d".toUTF8),
    (["p", "pom.xml"], .file "<project><version>1.2.3</version></project>".toUTF8)] ++ documents⟩
  workingDirectory := ["p"]

/-- Some documents. -/
def listedDocuments : List (List String × Entry) :=
  [(["p", "README.md"], .file "see 1.1.0".toUTF8), (["p", "docs", "a.md"], .file ⟨#[0xFF]⟩)]

/-- The configuration of the project. -/
theorem listed_manifest :
    ((driftConfig {}).inside (listedProject [])).toOption.map
      (fun c => c.layout.manifest) = some ⟨"/p/pom.xml"⟩ := by
  decide +kernel

/-- The documents of the project do not change a listing. -/
theorem listed_unchanged : Unchanged {} (listedProject []) (listedProject listedDocuments) := by
  refine ⟨rfl, rfl, fun c layered _ => ?_⟩
  have evaluated := listed_manifest
  rw [layered] at evaluated
  have manifest : c.layout.manifest = ⟨"/p/pom.xml"⟩ := Option.some.inj evaluated
  rw [manifest]
  rfl

/-- The listing for the sample project tells about a run, one with a malformed version is aborted as
the gate is, and one without documents is the same as with documents. -/
theorem sample_listing :
    (∃ c run warnings, ∃ listing : RuleListing,
      (driftConfig sampleOptions).inside DriftRun.sampleProject = .ok c ∧
      (DriftRun.ofConfig c).inside DriftRun.sampleProject = ⟨warnings, .ok run⟩ ∧
      listing.Tells DriftRun.sampleProject c run ∧
      (listRules sampleOptions true).inside DriftRun.sampleProject =
        .finished .pass (listing.report true) warnings) ∧
    ((docsDrift { baselineVersion := some "1.2" } false).inside DriftRun.sampleProject).status =
      .fatal ∧
    (listRules {} false).inside (listedProject listedDocuments) =
      (listRules {} false).inside (listedProject []) := by
  refine ⟨?_, ?_, ?_⟩
  · obtain ⟨c, run, warnings, listing, layered, ran, told, _, _, listed, _⟩ :=
      (listing_tells DriftRun.sampleProject sampleOptions true).2.1 (sample_docsDrift true)
    exact ⟨c, run, warnings, listing, layered, ran, told, listed⟩
  · exact (listing_tells DriftRun.sampleProject { baselineVersion := some "1.2" } false).2.2.1
      (by decide +kernel)
  · exact (listing_tells (listedProject []) {} false).2.2.2 _ listed_unchanged

end CommandLine
end QualityGates
