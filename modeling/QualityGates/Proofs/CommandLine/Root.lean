import QualityGates.Proofs.CommandLine.Listing
import QualityGates.Proofs.CommandLine.Options
import QualityGates.Proofs.Drift.WorkingDirectory

/-!
# The spelling of the root

The root of a project is resolved before anything is looked for below it. What is read from there on
has an absolute path that is made from the place of the root, so neither the text that named the
root nor the working directory can be seen in what a command for documents does.
-/

namespace QualityGates

variable {tree : FileTree} {cwd place : List String} {root : String}

/-! ## What a root stands for -/

namespace FileTree

/-- Steps that mean the directory itself stay in it. -/
theorem advance_still {here steps : List String} (still : ∀ step ∈ steps, step = "" ∨ step = ".") :
    tree.advance here .directory steps = .ok (.arrived here .directory) := by
  induction steps with
  | nil => rw [advance]
  | cons step steps ih =>
    rw [List.forall_mem_cons] at still
    rw [advance, if_pos still.1, ih still.2]

/-- A path with the components of `.` has no other steps than those. -/
theorem steps_still {p : Path} (same : Path.same p ⟨"."⟩ = true) :
    p.isAbsolute = false ∧ ∀ step ∈ steps p, step = "" ∨ step = "." := by
  have dot : p.components = ["."] := beq_iff_eq.mp same
  have relative : p.isAbsolute = false := by
    rw [← Bool.not_eq_true]
    intro absolute
    rw [Path.components, if_pos absolute] at dot
    exact absurd (List.cons.inj dot).1 (by decide)
  have noName : ∀ part ∈ p.parts, Path.isName part = false := by
    have noNames : p.parts.filter Path.isName = [] := by
      rw [Path.components, if_neg (by rw [relative]; exact Bool.false_ne_true)] at dot
      split at dot
      · exact List.map_eq_nil_iff.mp (List.cons.inj dot).2
      · -- A dot that does not stand first is no component.
        have named : "." ∈ p.names := dot ▸ List.mem_singleton_self "."
        obtain ⟨part, member, text⟩ := List.mem_map.mp named
        have isDot : part = ['.'] := String.ofList_injective text
        rw [isDot] at member
        exact absurd (List.mem_filter.mp member).2 (by decide)
    intro part member
    rw [← Bool.not_eq_true]
    exact fun name => List.filter_eq_nil_iff.mp noNames part member name
  refine ⟨relative, fun step member => ?_⟩
  obtain ⟨part, inParts, rfl⟩ := List.mem_map.mp member
  have void := noName part inParts
  unfold Path.isName at void
  rcases part with _ | ⟨c, rest⟩
  · exact .inl rfl
  · right
    have isDot : c :: rest = ['.'] := by simpa using void
    rw [isDot]

/-- Such a path leads nowhere else than to the working directory. -/
theorem resolve_still {p : Path} {entry : Entry} (same : Path.same p ⟨"."⟩ = true)
    (leads : tree.resolve cwd p = .ok (place, entry)) : place = cwd := by
  obtain ⟨relative, still⟩ := steps_still same
  obtain ⟨_, _, _, walked⟩ := resolve_ok_iff.mp leads
  rw [relative] at walked
  unfold walk at walked
  rw [advance_still still] at walked
  cases walked
  rfl

end FileTree

namespace CommandLine

/-- A root that leads to a directory stands for the absolute path of it, however it is written. -/
theorem inside_resolveRoot (leads : tree.resolve cwd ⟨root⟩ = .ok (place, .directory)) :
    (resolveRoot root).inside ⟨tree, cwd⟩ = .ofNames place := by
  unfold resolveRoot
  by_cases same : Path.same ⟨root⟩ ⟨"."⟩ = true
  · rw [if_pos same, FileTree.resolve_still same leads]
    rfl
  · have canonical : (Surroundings.mk tree cwd).answer (.canonical ⟨root⟩) =
        some (.ofNames place) := by
      show tree.canonical cwd ⟨root⟩ = _
      unfold FileTree.canonical
      rw [leads]
    rw [if_neg same, Lookup.inside_bind, Lookup.inside_question, canonical]
    rfl

/-! ## The same project from two places -/

variable {cwd' : List String} {root' : String} {o : DriftOptions} {c : Command}
  {config : DriftConfig}

/-- The configuration of a project has absolute places, whatever the configuration file says. -/
theorem isAbsolute_of_driftConfig (leads : tree.resolve cwd ⟨o.root⟩ = .ok (place, .directory))
    (layered : (driftConfig o).inside ⟨tree, cwd⟩ = .ok config) : config.layout.IsAbsolute := by
  rw [inside_driftConfig, inside_resolveRoot leads] at layered
  obtain ⟨file, _, rfl⟩ := Except.map_eq_ok_iff.mp layered
  exact DriftConfig.isAbsolute_ofSteps (Path.isAbsolute_ofNames place) _

/-- Two roots that lead to the same place have the same configuration, unless a configuration file
is named. -/
theorem inside_driftConfig_root (unnamed : o.config = none)
    (leads : tree.resolve cwd ⟨root⟩ = .ok (place, .directory))
    (leads' : tree.resolve cwd' ⟨root'⟩ = .ok (place, .directory)) :
    (driftConfig { o with root := root }).inside ⟨tree, cwd⟩ =
      (driftConfig { o with root := root' }).inside ⟨tree, cwd'⟩ := by
  rw [inside_driftConfig, inside_driftConfig, inside_resolveRoot leads, inside_resolveRoot leads']
  have absolute : (configPath o (.ofNames place)).isAbsolute = true := by
    rw [configPath, unnamed]
    exact Path.isAbsolute_join (Path.isAbsolute_ofNames place) ⟨Layout.configName⟩
  have loaded := @inside_loadConfig_eq ⟨tree, cwd⟩ ⟨tree, cwd'⟩ o (.ofNames place)
    (FileTree.state_of_absolute absolute)
  exact congrArg _ loaded

/-- So the gate goes through the same documents from everywhere and finds the same in them. -/
theorem inside_documents_root (leads : tree.resolve cwd ⟨o.root⟩ = .ok (place, .directory))
    (layered : (driftConfig o).inside ⟨tree, cwd⟩ = .ok config) :
    (Drift.Targets.paths config.layout).inside ⟨tree, cwd⟩ =
        (Drift.Targets.paths config.layout).inside ⟨tree, cwd'⟩ ∧
      (DriftRun.ofConfig config).inside ⟨tree, cwd⟩ =
        (DriftRun.ofConfig config).inside ⟨tree, cwd'⟩ := by
  have absolute := isAbsolute_of_driftConfig leads layered
  obtain ⟨paths, _, found, found'⟩ := @Drift.paths_of_absolute tree cwd cwd' _ absolute
  exact ⟨found.trans found'.symm, DriftRun.inside_of_absolute absolute⟩

/-- So documents are checked alike. -/
theorem inside_docsDrift_root (json : Bool) (unnamed : o.config = none)
    (leads : tree.resolve cwd ⟨root⟩ = .ok (place, .directory))
    (leads' : tree.resolve cwd' ⟨root'⟩ = .ok (place, .directory)) :
    (docsDrift { o with root := root } json).inside ⟨tree, cwd⟩ =
      (docsDrift { o with root := root' } json).inside ⟨tree, cwd'⟩ := by
  have same := inside_driftConfig_root unnamed leads leads'
  cases layered : (driftConfig { o with root := root }).inside ⟨tree, cwd⟩ with
  | error f =>
    rw [inside_docsDrift_error layered, inside_docsDrift_error (same.symm.trans layered)]
  | ok config =>
    have absolute := isAbsolute_of_driftConfig leads layered
    rw [inside_docsDrift_ok layered, inside_docsDrift_ok (same.symm.trans layered)]
    unfold judgeDocuments
    rw [DriftRun.inside_of_absolute absolute]

/-- So rules are listed alike. -/
theorem inside_listRules_root (json : Bool) (unnamed : o.config = none)
    (leads : tree.resolve cwd ⟨root⟩ = .ok (place, .directory))
    (leads' : tree.resolve cwd' ⟨root'⟩ = .ok (place, .directory)) :
    (listRules { o with root := root } json).inside ⟨tree, cwd⟩ =
      (listRules { o with root := root' } json).inside ⟨tree, cwd'⟩ := by
  have same := inside_driftConfig_root unnamed leads leads'
  cases layered : (driftConfig { o with root := root }).inside ⟨tree, cwd⟩ with
  | error f =>
    rw [inside_listRules_error layered, inside_listRules_error (same.symm.trans layered)]
  | ok config =>
    have absolute := isAbsolute_of_driftConfig leads layered
    have release := @Release.inside_resolve_eq ⟨tree, cwd⟩ ⟨tree, cwd'⟩ config.baselineOverride
      config.layout.manifest fun _ => FileTree.state_of_absolute absolute.manifest
    rw [inside_listRules_ok layered, inside_listRules_ok (same.symm.trans layered), release]

/-- What two commands for documents share that are carried out in two places. -/
structure Command.SameRun (s s' : Surroundings) (c c' : Command) : Prop where
  /-- All that can be seen: the exit status, the output, the warnings and the failure. -/
  outcome : c.perform.inside s = c'.perform.inside s'
  /-- The layers, the allow-list and the places of the project. -/
  config : ∀ o o', c.driftOptions? = some o → c'.driftOptions? = some o' →
    (driftConfig o).inside s = (driftConfig o').inside s'
  /-- The documents, those of them that are passed over, and the findings in the others. -/
  documents : ∀ o config, c.driftOptions? = some o → (driftConfig o).inside s = .ok config →
    (Drift.Targets.paths config.layout).inside s = (Drift.Targets.paths config.layout).inside s' ∧
      (DriftRun.ofConfig config).inside s = (DriftRun.ofConfig config).inside s'

/-- The same command for the project with another root. -/
def Command.atRoot (root : String) : Command → Command
  | docsDrift o json => .docsDrift { o with root := root } json
  | listRules o json => .listRules { o with root := root } json
  | c => c

/-- A command for documents that names no configuration file does the same for two roots that lead
to the same place. -/
theorem Command.sameRun_atRoot (drift : c.driftOptions? = some o) (unnamed : o.config = none)
    (leads : tree.resolve cwd ⟨root⟩ = .ok (place, .directory))
    (leads' : tree.resolve cwd' ⟨o.root⟩ = .ok (place, .directory)) :
    SameRun ⟨tree, cwd⟩ ⟨tree, cwd'⟩ (c.atRoot root) c := by
  cases c with
  | docsDrift o json =>
    cases drift
    refine ⟨inside_docsDrift_root json unnamed leads leads', ?_, ?_⟩
    · rintro _ _ ⟨⟩ ⟨⟩
      exact inside_driftConfig_root unnamed leads leads'
    · rintro _ config ⟨⟩ layered
      exact inside_documents_root leads layered
  | listRules o json =>
    cases drift
    refine ⟨inside_listRules_root json unnamed leads leads', ?_, ?_⟩
    · rintro _ _ ⟨⟩ ⟨⟩
      exact inside_driftConfig_root unnamed leads leads'
    · rintro _ config ⟨⟩ layered
      exact inside_documents_root leads layered
  | benchRegression o json => cases drift
  | coverageSummary report limit json => cases drift

/-! ## Arguments that give a root -/

/-- The arguments that give a root. -/
inductive GivesRoot (root : String) : List String → Prop where
  | attached : GivesRoot root ["--root=" ++ root]
  | separate (plain : Argument.ofText root = .plain) : GivesRoot root ["--root", root]

/-- They give it as the value of an option. -/
theorem GivesRoot.givesValue {extra : List String} (gives : GivesRoot root extra) :
    Grammar.GivesValue "root" root extra := by
  cases gives with
  | attached =>
    refine .attached ?_
    have text : ("--root=" ++ root).toList =
        '-' :: '-' :: 'r' :: 'o' :: 'o' :: 't' :: '=' :: root.toList := by
      rw [String.toList_append]
      rfl
    unfold Argument.ofText
    rw [text]
    show Argument.long (String.ofList ['r', 'o', 'o', 't']) (some (String.ofList root.toList)) = _
    rw [String.ofList_toList]
  | separate plain => exact .separate (by decide) plain

namespace Invocation

/-- The same invocation for the project with another root. -/
def atRoot (root : String) : Invocation → Invocation
  | run c => .run (c.atRoot root)
  | other => other

variable {env : Environment} {name : String} {args rest front back extra : List String}
  {c' : Command} {m m' : Matches}

/-- Options with a root are those without it, apart from the root. -/
theorem ofMatches_of_sets (sets : m.Sets "root" root m') :
    DriftOptions.ofMatches env m' = { DriftOptions.ofMatches env m with root := root } := by
  unfold DriftOptions.ofMatches
  rw [sets.given, sets.others "allowlist" (by decide), sets.others "baseline-version" (by decide),
    sets.others "stale-versions" (by decide), sets.others "manifest" (by decide),
    sets.others "config" (by decide)]
  rfl

/-- A command for documents is built from its options, the root among them. -/
theorem ofCommand_documents (env : Environment)
    (documents : name = "docs-drift" ∨ name = "list-rules") :
    ∃ build : Matches → Command,
      (∀ args, ofCommand env name args =
        ofReading (fun m => some (build m)) (driftGrammar.read {} args)) ∧
      (∀ m, (build m).driftOptions? = some (.ofMatches env m)) ∧
      ∀ root m m', m.Sets "root" root m' → build m' = (build m).atRoot root := by
  rcases documents with rfl | rfl
  · refine ⟨fun m => .docsDrift (.ofMatches env m) (m.flag "json"),
      ofCommand_docsDrift env, fun _ => rfl, fun root m m' sets => ?_⟩
    dsimp only
    rw [ofMatches_of_sets sets, sets.flag]
    rfl
  · refine ⟨fun m => .listRules (.ofMatches env m) (m.flag "json"),
      ofCommand_listRules env, fun _ => rfl, fun root m m' sets => ?_⟩
    dsimp only
    rw [ofMatches_of_sets sets, sets.flag]
    rfl

/-- A root in front of the arguments of a command for documents is its root, and nothing else
changes. -/
theorem ofCommand_given (documents : name = "docs-drift" ∨ name = "list-rules")
    (noRoot : Grammar.Lacks "root" args) (gives : GivesRoot root extra) :
    ofCommand env name (extra ++ args) = (ofCommand env name args).atRoot root := by
  obtain ⟨build, reads, _, follows⟩ := ofCommand_documents env documents
  rw [reads, reads]
  have sets := Grammar.read_given (g := driftGrammar) gives.givesValue rfl noRoot
  generalize driftGrammar.read {} args = reading at sets
  generalize driftGrammar.read {} (extra ++ args) = reading' at sets
  cases sets with
  | finished sets => exact congrArg run (follows root _ _ sets)
  | decided unfinished =>
    cases reading with
    | finished m => cases unfinished
    | _ => rfl

/-- A command for documents that is accepted with a root is accepted without it. -/
theorem ofCommand_without (documents : name = "docs-drift" ∨ name = "list-rules")
    (noRoot : Grammar.Lacks "root" back) (gives : GivesRoot root extra)
    (ran : ofCommand env name (front ++ (extra ++ back)) = .run c') :
    ∃ c, ofCommand env name (front ++ back) = .run c ∧ c' = c.atRoot root := by
  obtain ⟨build, reads, _, follows⟩ := ofCommand_documents env documents
  rw [reads] at ran
  obtain ⟨m', finished, ⟨⟩⟩ := ofReading_run_iff.mp ran
  have accepts := Grammar.accepts_of_read (g := driftGrammar) rfl finished rfl
  obtain ⟨m, finished₀, sets⟩ := accepts.without gives.givesValue rfl noRoot
  refine ⟨build m, ?_, follows root m m' sets⟩
  rw [reads, finished₀]
  rfl

/-- A root may be given right behind the name of the command. -/
theorem ofArguments_given (env : Environment)
    (command : programGrammar.read {} args = .subcommand name rest)
    (documents : name = "docs-drift" ∨ name = "list-rules") (noRoot : Grammar.Lacks "root" args) :
    ∃ front, args = front ++ rest ∧ ∀ extra, GivesRoot root extra →
      ofArguments env (front ++ (extra ++ rest)) = (ofArguments env args).atRoot root := by
  obtain ⟨front, rfl, same⟩ := (Grammar.accepts_of_read rfl command rfl).behind_subcommand
  refine ⟨front, rfl, fun extra gives => ?_⟩
  unfold ofArguments
  rw [same, same]
  exact ofCommand_given documents (fun arg member => noRoot arg (List.mem_append_right _ member))
    gives

/-- Wherever a root is accepted among the arguments, they are accepted without it. -/
theorem ofArguments_without
    (command : programGrammar.read {} (front ++ back) = .subcommand name rest)
    (documents : name = "docs-drift" ∨ name = "list-rules")
    (noRoot : Grammar.Lacks "root" (front ++ back)) (gives : GivesRoot root extra)
    (ran : ofArguments env (front ++ (extra ++ back)) = .run c') :
    ∃ c, ofArguments env (front ++ back) = .run c ∧ c' = c.atRoot root := by
  obtain ⟨name', rest', command', carried⟩ := ofArguments_run ran
  have accepts := Grammar.accepts_of_read (g := programGrammar) rfl command' rfl
  obtain ⟨behind, rfl, without⟩ :=
    accepts.behind_name gives.givesValue rfl (by decide) (by decide)
  cases command.symm.trans without
  unfold ofArguments
  rw [without]
  exact ofCommand_without documents
    (fun arg member => noRoot arg (List.mem_append_right _ member)) gives carried

/-- Arguments that give neither a root nor a configuration file leave the root where the command is
run and the file to the project. -/
theorem ofArguments_defaults (ran : ofArguments env args = .run c)
    (command : programGrammar.read {} args = .subcommand name rest)
    (documents : name = "docs-drift" ∨ name = "list-rules") (noRoot : Grammar.Lacks "root" args)
    (noConfig : Grammar.Lacks "config" args) :
    ∃ o, c.driftOptions? = some o ∧ o.root = "." ∧ o.config = none := by
  obtain ⟨front, rfl, _⟩ := (Grammar.accepts_of_read rfl command rfl).behind_subcommand
  obtain ⟨build, reads, options, _⟩ := ofCommand_documents env documents
  unfold ofArguments at ran
  rw [command] at ran
  dsimp only at ran
  rw [reads] at ran
  obtain ⟨m, finished, ⟨⟩⟩ := ofReading_run_iff.mp ran
  have accepts := Grammar.accepts_of_read (g := driftGrammar) rfl finished rfl
  have unset {option : String} (lacks : Grammar.Lacks option (front ++ rest)) :
      m.value? option = none :=
    accepts.value?_of_lacks fun arg member => lacks arg (List.mem_append_right _ member)
  refine ⟨_, options m, ?_, unset noConfig⟩
  unfold DriftOptions.ofMatches
  rw [unset noRoot]
  rfl

/-- The spelling of the root does not matter. For arguments of a command for documents without a
root and a configuration file, a root may be given behind the name of the command or wherever else
it is accepted, and then the command is the same apart from its root. If the root leads to a
directory, from whatever working directory, then the command does what the one without a root does
in that directory. -/
theorem sameRun_of_spelling (env : Environment)
    (command : programGrammar.read {} args = .subcommand name rest)
    (documents : name = "docs-drift" ∨ name = "list-rules") (noRoot : Grammar.Lacks "root" args)
    (noConfig : Grammar.Lacks "config" args)
    (leads : tree.resolve cwd ⟨root⟩ = .ok (place, .directory)) :
    (∃ front, args = front ++ rest ∧ ∀ extra, GivesRoot root extra →
      ofArguments env (front ++ (extra ++ rest)) = (ofArguments env args).atRoot root) ∧
    (∀ front extra back c', args = front ++ back → GivesRoot root extra →
      ofArguments env (front ++ (extra ++ back)) = .run c' →
        ∃ c, ofArguments env args = .run c ∧ c' = c.atRoot root) ∧
    ∀ c, ofArguments env args = .run c →
      Command.SameRun ⟨tree, cwd⟩ ⟨tree, place⟩ (c.atRoot root) c := by
  refine ⟨ofArguments_given env command documents noRoot, ?_, fun c ran => ?_⟩
  · rintro front extra back c' rfl gives ran
    exact ofArguments_without command documents noRoot gives ran
  · obtain ⟨o, drift, here, unnamed⟩ := ofArguments_defaults ran command documents noRoot noConfig
    have stays : tree.resolve place ⟨o.root⟩ = .ok (place, .directory) := by
      rw [here]
      rfl
    exact Command.sameRun_atRoot drift unnamed leads stays

/-- Arguments that give the sample options without a root. -/
def sampleArguments : List String :=
  ["--allowlist=docs/a*", "--baseline-version=1.2.3"]

/-- A spelling of the root of the sample project, seen from its documents. -/
def sampleSpelling : String := "../docs//./../"

/-- The sample options are read. -/
theorem sampleArguments_ran : ofArguments {} ("docs-drift" :: sampleArguments) =
    .run (.docsDrift { sampleOptions with root := "." } false) := by
  have command : programGrammar.read {} ("docs-drift" :: sampleArguments) =
      .subcommand "docs-drift" sampleArguments := Grammar.read_subcommand (by decide) (by decide)
  have allowlist : Argument.ofText "--allowlist=docs/a*" = .long "allowlist" (some "docs/a*") := by
    decide
  have version : Argument.ofText "--baseline-version=1.2.3" =
      .long "baseline-version" (some "1.2.3") := by decide
  have accepts : driftGrammar.Accepts {} sampleArguments (.finished { values :=
      [("allowlist", "docs/a*"), ("baseline-version", "1.2.3")] }) :=
    .attached allowlist rfl rfl <| .attached version rfl rfl <| .finished _
  unfold ofArguments
  rw [command]
  dsimp only
  rw [ofCommand_docsDrift, accepts.read_eq]
  rfl

/-- They give neither a root nor a configuration file. -/
theorem sampleArguments_lack {option : String}
    (other : option ∉ ["allowlist", "baseline-version"]) :
    Grammar.Lacks option ("docs-drift" :: sampleArguments) := by
  intro arg member value form
  have forms : ∀ arg ∈ "docs-drift" :: sampleArguments, Argument.ofText arg = .plain ∨
      ∃ name ∈ ["allowlist", "baseline-version"], ∃ value,
        Argument.ofText arg = .long name (some value) := by
    intro arg member
    rcases List.mem_cons.mp member with rfl | given
    · exact .inl (by decide)
    · rcases List.mem_cons.mp given with rfl | given
      · exact .inr ⟨"allowlist", by decide, "docs/a*", by decide⟩
      · cases List.mem_singleton.mp given
        exact .inr ⟨"baseline-version", by decide, "1.2.3", by decide⟩
  rcases forms arg member with plain | ⟨name, known, _, long⟩
  · cases plain.symm.trans form
  · cases long.symm.trans form
    exact other known

/-- The sample project is checked from its documents, with a spelled root, as from itself. -/
theorem sample_spelling :
    ofArguments {} ("docs-drift" :: ("--root=" ++ sampleSpelling) :: sampleArguments) =
      .run (.docsDrift { sampleOptions with root := sampleSpelling } false) ∧
    Command.SameRun ⟨DriftRun.sampleProject.tree, ["p", "docs"]⟩ DriftRun.sampleProject
      (.docsDrift { sampleOptions with root := sampleSpelling } false)
      (.docsDrift { sampleOptions with root := "." } false) ∧
    ((Command.docsDrift { sampleOptions with root := "." } false).perform.inside
      DriftRun.sampleProject).status ≠ .fatal := by
  have command : programGrammar.read {} ("docs-drift" :: sampleArguments) =
      .subcommand "docs-drift" sampleArguments := Grammar.read_subcommand (by decide) (by decide)
  obtain ⟨⟨front, split, given⟩, _, same⟩ := @sameRun_of_spelling DriftRun.sampleProject.tree
    ["p", "docs"] ["p"] sampleSpelling "docs-drift" _ _ {} command (.inl rfl)
    (sampleArguments_lack (by decide)) (sampleArguments_lack (by decide)) rfl
  have first : ["docs-drift"] = front :=
    List.append_cancel_right (show ["docs-drift"] ++ sampleArguments = _ from split)
  cases first
  refine ⟨?_, same _ sampleArguments_ran, ?_⟩
  · rw [sampleArguments_ran] at given
    exact given _ .attached
  · have here : DriftRun.sampleProject.tree.resolve ["p"] ⟨"."⟩ = .ok (["p"], .directory) := rfl
    have absolute : DriftRun.sampleProject.tree.resolve ["p"] ⟨"/p"⟩ =
        .ok (["p"], .directory) := rfl
    have elsewhere : (docsDrift { sampleOptions with root := "." } false).inside
        DriftRun.sampleProject = (docsDrift sampleOptions false).inside DriftRun.sampleProject :=
      inside_docsDrift_root false rfl here absolute
    show ((docsDrift { sampleOptions with root := "." } false).inside
      DriftRun.sampleProject).status ≠ .fatal
    rw [elsewhere]
    exact sample_docsDrift false

end Invocation
end CommandLine
end QualityGates
