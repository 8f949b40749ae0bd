import QualityGates.CommandLine.Execution
import QualityGates.Proofs.CommandLine.Arguments
import QualityGates.Proofs.Coverage.Classes
import QualityGates.Proofs.Coverage.Limits
import QualityGates.Proofs.Lookup
import QualityGates.Proofs.Number.Decimal

/-!
# Coverage summaries

The limit and the form of a summary are only looked at when the classes of its report have been
ranked. So the two forms show the same classes, tables with different limits agree, and a report
that cannot be used fails alike in both forms and with every limit.
-/

namespace QualityGates.CommandLine

open Coverage (IsTable IsListing)

variable {env : Environment} {s : Surroundings} {report : String} {naming : List String}

/-! ## Arguments -/

/-- Arguments that name a report: none for the usual one, a plain one, or one that may start with a
dash. -/
inductive NamesReport : List String → String → Prop where
  | usual : NamesReport [] defaultReport
  | plain {report : String} (form : Argument.ofText report = .plain) : NamesReport [report] report
  | separated (report : String) : NamesReport ["--", report] report

/-- The arguments that ask for the form of a summary. -/
def formArguments (json : Bool) : List String :=
  if json then ["--json"] else []

/-- The arguments that ask for a summary. -/
def summaryArguments (limit : UInt64) (json : Bool) (naming : List String) : List String :=
  "coverage-summary" :: "--limit" :: Number.natText limit.toNat :: (formArguments json ++ naming)

/-- The digits of a number are a plain argument. -/
theorem ofText_natText (n : Nat) : Argument.ofText (Number.natText n) = .plain := by
  refine Argument.ofText_eq_plain fun rest dashed => ?_
  have digit := (Number.isDecimal_natText n).digits '-' (dashed ▸ List.mem_cons_self)
  exact absurd digit (by decide)

/-- A report that is named becomes the only plain argument. -/
theorem read_naming (names : NamesReport naming report) {m : Matches} (none : m.plain = []) :
    ∃ m', coverageGrammar.read m naming = .finished m' ∧ m'.values = m.values ∧
      m'.flags = m.flags ∧ m'.plain.head?.getD defaultReport = report := by
  cases names with
  | usual =>
    refine ⟨m, by rw [Grammar.read], rfl, rfl, ?_⟩
    rw [none]
    rfl
  | plain form =>
    refine ⟨{ m with plain := m.plain ++ [report] }, ?_, rfl, rfl, ?_⟩
    · rw [Grammar.read_plain form rfl (by rw [none]; decide), Grammar.read]
    · rw [none]
      rfl
  | separated =>
    have form : Argument.ofText "--" = .separator := by decide
    refine ⟨{ m with plain := m.plain ++ [report] }, ?_, rfl, rfl, ?_⟩
    · exact Grammar.read_separator form (by rw [none]; exact Nat.le_refl 1)
    · rw [none]
      rfl

/-- The structured form is a flag. -/
theorem read_formArguments (json : Bool) (values : List (String × String)) :
    coverageGrammar.read { values } (formArguments json ++ naming) =
      coverageGrammar.read { values, flags := if json then ["json"] else [] } naming := by
  cases json with
  | false => rfl
  | true =>
    have form : Argument.ofText "--json" = .long "json" none := by decide
    exact Grammar.read_flag form rfl rfl

/-- The arguments ask for the summary of the report that is named. -/
theorem ofArguments_summaryArguments (names : NamesReport naming report) (limit : UInt64)
    (json : Bool) : Invocation.ofArguments env (summaryArguments limit json naming) =
      .run (.coverageSummary report limit.toNat json) := by
  let text := Number.natText limit.toNat
  have digits : Number.readPlusWord text.toList = some limit := Number.readPlusWord_natText limit
  have accepted : OptionKind.count.accepts text = true := by
    unfold OptionKind.accepts
    rw [digits]
    rfl
  have form : Argument.ofText "--limit" = .long "limit" none := by decide
  have limited : coverageGrammar.read {} ("--limit" :: text :: (formArguments json ++ naming)) =
      coverageGrammar.read { values := [("limit", text)] } (formArguments json ++ naming) :=
    Grammar.read_separate form rfl (Grammar.takeValue_eq_some_iff.mpr ⟨accepted, rfl, rfl⟩)
      (ofText_natText limit.toNat)
  obtain ⟨m, read, values, flags, named⟩ := read_naming names
    (m := { values := [("limit", text)], flags := if json then ["json"] else [] }) rfl
  have command : programGrammar.read {} (summaryArguments limit json naming) =
      .subcommand "coverage-summary" ("--limit" :: text :: (formArguments json ++ naming)) :=
    Grammar.read_subcommand (by decide) (by decide)
  have asked : m.flag "json" = json := by
    unfold Matches.flag
    rw [flags]
    cases json <;> rfl
  have limitGiven : m.value? "limit" = some text := by
    unfold Matches.value?
    rw [values]
    rfl
  unfold Invocation.ofArguments
  rw [command]
  show Invocation.ofReading (fun m => some (coverageCommand m)) (coverageGrammar.read {} _) = _
  rw [limited, read_formArguments, read]
  show Invocation.run (coverageCommand m) = _
  unfold coverageCommand
  rw [named, asked, limitGiven, Option.bind_some, digits]
  rfl

/-! ## Outcomes -/

/-- What the summary of a report comes to in some surroundings. -/
def summary (s : Surroundings) (report : String) (limit : Nat) (json : Bool) : Outcome :=
  (Command.coverageSummary report limit json).perform.inside s

/-- Whether a report can be read, as one that has some classes. -/
def Readable (s : Surroundings) (report : String) (classes : List ClassCoverage) : Prop :=
  ∃ text, (Lookup.text ⟨report⟩).inside s = .ok text ∧
    Coverage.classesOf ⟨report⟩ text = .ok classes

/-- Why a report cannot be used: it is missing or cannot be read, or it is malformed. -/
inductive Unusable (s : Surroundings) (report : String) : GateError → Prop where
  | unread {fault : ReadFault} (failed : (Lookup.text ⟨report⟩).inside s = .error fault) :
    Unusable s report (GateError.ofReadFault ⟨report⟩ fault)
  | malformed {text : String} {fault : CoverageFault}
    (found : (Lookup.text ⟨report⟩).inside s = .ok text)
    (failed : Coverage.Progress.takeAll {} (Xml.events text) = .error fault) :
    Unusable s report (.malformedCoverage ⟨report⟩ fault)

/-- A report can be read or cannot be used. -/
theorem readable_or_unusable (s : Surroundings) (report : String) :
    (∃ classes, Readable s report classes) ∨ ∃ e, Unusable s report e := by
  cases found : (Lookup.text ⟨report⟩).inside s with
  | error fault => exact .inr ⟨_, .unread found⟩
  | ok text =>
    cases taken : Coverage.Progress.takeAll {} (Xml.events text) with
    | error fault => exact .inr ⟨_, .malformed found taken⟩
    | ok p =>
      refine .inl ⟨p.classes.reverse, text, found, ?_⟩
      unfold Coverage.classesOf
      rw [taken]

/-- The classes of a report that can be read are ranked. -/
theorem inside_summarize_of_readable {classes : List ClassCoverage}
    (readable : Readable s report classes) :
    (Coverage.summarize ⟨report⟩).inside s = .ok (ClassCoverage.ranked classes) := by
  obtain ⟨text, found, read⟩ := readable
  unfold Coverage.summarize
  rw [Lookup.inside_bind, Lookup.inside_pure, Lookup.inside_requiredText, found]
  show (Coverage.classesOf ⟨report⟩ text).map _ = _
  rw [read]
  rfl

/-- A report that cannot be used gives the error that says why. -/
theorem inside_summarize_of_unusable {e : GateError} (unusable : Unusable s report e) :
    (Coverage.summarize ⟨report⟩).inside s = .error e := by
  unfold Coverage.summarize
  rw [Lookup.inside_bind, Lookup.inside_pure, Lookup.inside_requiredText]
  cases unusable with
  | unread failed =>
    rw [failed]
    rfl
  | @malformed text fault found failed =>
    rw [found]
    show (Coverage.classesOf ⟨report⟩ text).map _ = _
    unfold Coverage.classesOf
    rw [failed]
    rfl

/-- The limit and the form of a summary are only looked at when the classes have been ranked. -/
theorem summary_eq (s : Surroundings) (report : String) (limit : Nat) (json : Bool) :
    summary s report limit json =
      match (Coverage.summarize ⟨report⟩).inside s with
      | .error e => .aborted ⟨"Coverage summary failed for " ++ report, e⟩
      | .ok ranking => .finished .pass (Coverage.report limit json ranking) := by
  unfold summary Command.perform coverageSummary
  rw [Lookup.inside_bind]
  cases (Coverage.summarize ⟨report⟩).inside s <;> rfl

/-- What it means that the summaries of a ranking agree: all of them succeed, each table shows the
first classes and starts like the tables with higher limits, and each listing shows the classes of
the table with the same limit. -/
structure SummariesAgree (ranking : List ClassCoverage) (summary : Nat → Bool → Outcome) :
    Prop where
  succeeds : ∀ limit json,
    (summary limit json).status.code = 0 ∧ (summary limit json).failure = none
  table : ∀ limit, ∃ rows, IsTable limit ranking rows (summary limit false).output
  front : ∀ k l, k ≤ l → ∃ more, (summary l false).output = (summary k false).output ++ more
  listing : ∀ limit, ∃ items, IsListing limit ranking items (summary limit true).output

/-- The summaries of a report that can be read agree. -/
theorem summariesAgree_of_readable {classes : List ClassCoverage}
    (readable : Readable s report classes) :
    SummariesAgree (ClassCoverage.ranked classes) (summary s report) := by
  have shown (limit : Nat) (json : Bool) : summary s report limit json =
      .finished .pass (Coverage.report limit json (ClassCoverage.ranked classes)) := by
    rw [summary_eq, inside_summarize_of_readable readable]
  refine ⟨fun limit json => ?_, fun limit => ?_, fun k l le => ?_, fun limit => ?_⟩
  · rw [shown]
    exact ⟨rfl, rfl⟩
  · rw [shown]
    exact ⟨_, Coverage.isTable_table limit _⟩
  · rw [shown, shown]
    exact Coverage.exists_table_eq_append _ le
  · rw [shown]
    exact Coverage.exists_isListing limit _

/-- A summary asks for a report, a limit and a form by its arguments. Every report can be read or
cannot be used. All summaries of one that can be read succeed and agree, in both forms and with
every limit, and all summaries of one that cannot be used fail with the same error and without
output. -/
theorem summaries_of_one_ranking (env : Environment) (s : Surroundings)
    (names : NamesReport naming report) :
    (∀ limit json, Invocation.ofArguments env (summaryArguments limit json naming) =
      .run (.coverageSummary report limit.toNat json)) ∧
    ((∃ classes, Readable s report classes) ∨ ∃ e, Unusable s report e) ∧
    (∀ classes, Readable s report classes →
      SummariesAgree (ClassCoverage.ranked classes) (summary s report)) ∧
    ∀ e, Unusable s report e → ∀ limit json,
      (summary s report limit json).status.code = 2 ∧ (summary s report limit json).output = "" ∧
        (summary s report limit json).failure =
          some ⟨"Coverage summary failed for " ++ report, e⟩ := by
  refine ⟨ofArguments_summaryArguments names, readable_or_unusable s report,
    fun classes readable => summariesAgree_of_readable readable,
    fun e unusable limit json => ?_⟩
  rw [summary_eq, inside_summarize_of_unusable unusable]
  exact ⟨rfl, rfl, rfl⟩

/-- A project with the sample report. -/
def reportedProject : Surroundings where
  tree := ⟨[(["p", "report.xml"], .file Coverage.sampleReport.document.toUTF8)]⟩
  workingDirectory := ["p"]

/-- The summaries of the sample report agree, and those of a report that is not there fail. -/
theorem reportedProject_summaries :
    NamesReport ["report.xml"] "report.xml" ∧
    Readable reportedProject "report.xml" [.ofCounts "p.A" 1 2] ∧
    SummariesAgree (ClassCoverage.ranked [.ofCounts "p.A" 1 2])
      (summary reportedProject "report.xml") ∧
    NamesReport ["other.xml"] "other.xml" ∧
    Unusable reportedProject "other.xml" (.missingInput ⟨"other.xml"⟩) ∧
    (summary reportedProject "other.xml" 5 true).output = "" := by
  have names : NamesReport ["report.xml"] "report.xml" := .plain (by decide)
  have readable : Readable reportedProject "report.xml" [.ofCounts "p.A" 1 2] :=
    ⟨_, Lookup.inside_text_of_bytes rfl, Coverage.sampleReport_classes⟩
  have otherNames : NamesReport ["other.xml"] "other.xml" := .plain (by decide)
  have missing : (Lookup.text ⟨"other.xml"⟩).inside reportedProject = .error .notFound := rfl
  have unusable : Unusable reportedProject "other.xml" (.missingInput ⟨"other.xml"⟩) :=
    .unread missing
  obtain ⟨-, -, agree, -⟩ := summaries_of_one_ranking {} reportedProject names
  obtain ⟨-, -, -, fail⟩ := summaries_of_one_ranking {} reportedProject otherNames
  exact ⟨names, readable, agree _ readable, otherNames, unusable, (fail _ unusable 5 true).2.1⟩

end QualityGates.CommandLine
