import QualityGates.Proofs.FileTree.Missing
import QualityGates.Proofs.Number.Order
import QualityGates.Proofs.Regression.Accounting
import QualityGates.Proofs.Regression.Run

/-!
# Which error a run of the benchmark gate ends with

The thresholds come first, and their error is the same whatever the files hold. The baseline comes
next and the results last. A file fails because it is not there, cannot be read, holds no JSON,
holds another kind of JSON value than it should, or has something else than a number for a score.
-/

namespace QualityGates

variable {s : Surroundings} {p : Path} {e : GateError} {json : Json} {fault : ScoreFault}

/-! ## Files with JSON -/

/-- A path leads to a file whose text is a JSON value. -/
def HoldsJson (s : Surroundings) (p : Path) (json : Json) : Prop :=
  ∃ text, Holds s p text ∧ Json.ofText text = .ok json

/-- Why no JSON value is read at a path. -/
inductive LacksJson (s : Surroundings) (p : Path) : GateError → Prop where
  /-- The path leads to nothing. -/
  | missing (absent : s.tree.Absent s.workingDirectory p) : LacksJson s p (.missingInput p)
  /-- The path leads to something that is no text. -/
  | unreadable {fault : ReadFault} (present : ¬ s.tree.Absent s.workingDirectory p)
    (unread : (Lookup.text p).inside s = .error fault) : LacksJson s p (.unreadable p fault)
  /-- The text is not JSON. -/
  | notJson {text : String} {error : Json.Error} (holds : Holds s p text)
    (unparsed : Json.ofText text = .error error) : LacksJson s p (.notJson p error)

/-- A path lacks JSON where no text is looked up there. -/
theorem LacksJson.of_unread {fault : ReadFault} (unread : (Lookup.text p).inside s = .error fault) :
    LacksJson s p (GateError.ofReadFault p fault) := by
  rcases GateError.ofReadFault_cases p fault with ⟨rfl, same⟩ | ⟨other, same⟩
  · rw [same]
    exact .missing (Lookup.text_eq_notFound_iff.mp unread)
  · rw [same]
    refine .unreadable (fun absent => other ?_) unread
    have missing := Lookup.text_eq_notFound_iff.mpr absent
    exact Except.error.inj (unread.symm.trans missing)

variable {α : Type} {read : Json → Except ScoreFault α} {reword : ScoreFault → GateError}

/-- Nothing is made of a text that is not JSON, or of a JSON value that is refused. -/
theorem ofJsonText_eq_error_iff {text : String} : ofJsonText p read reword text = .error e ↔
    (∃ error, Json.ofText text = .error error ∧ e = .notJson p error) ∨
      ∃ json fault, Json.ofText text = .ok json ∧ read json = .error fault ∧ e = reword fault := by
  unfold ofJsonText
  cases parsed : Json.ofText text with
  | error error => simp [eq_comm]
  | ok json => simp [Except.mapError_eq_error_iff, @eq_comm _ e]

/-- Loading fails where a path lacks JSON, or where nothing can be made of the JSON value there. -/
theorem bind_ofJsonText_eq_error_iff :
    ((Lookup.requiredText p).inside s).bind (ofJsonText p read reword) = .error e ↔
      LacksJson s p e ∨
        ∃ json fault, HoldsJson s p json ∧ read json = .error fault ∧ e = reword fault := by
  rw [Lookup.inside_requiredText, Except.bind_eq_error_iff, Except.mapError_eq_error_iff]
  simp only [Except.mapError_eq_ok_iff, ofJsonText_eq_error_iff, Lookup.text_eq_ok_iff]
  constructor
  · rintro (⟨fault, unread, rfl⟩ | ⟨text, holds, ⟨_, unparsed, rfl⟩ | ⟨json, fault, parsed, made⟩⟩)
    · exact .inl (.of_unread unread)
    · exact .inl (.notJson holds unparsed)
    · exact .inr ⟨json, fault, ⟨text, holds, parsed⟩, made⟩
  · rintro (lacks | ⟨json, fault, ⟨text, holds, parsed⟩, made⟩)
    · cases lacks with
      | missing absent => exact .inl ⟨.notFound, Lookup.text_eq_notFound_iff.mpr absent, rfl⟩
      | @unreadable fault present unread =>
        rcases GateError.ofReadFault_cases p fault with ⟨rfl, _⟩ | ⟨_, same⟩
        · exact absurd (Lookup.text_eq_notFound_iff.mp unread) present
        · exact .inl ⟨fault, unread, same⟩
      | notJson holds unparsed => exact .inr ⟨_, holds, .inl ⟨_, unparsed, rfl⟩⟩
    · exact .inr ⟨text, holds, .inr ⟨json, fault, parsed, made⟩⟩

/-! ## The baseline -/

/-- Why a baseline is not loaded. -/
inductive Baseline.Fails (s : Surroundings) (p : Path) : GateError → Prop where
  /-- There is no JSON value. -/
  | lacks {e : GateError} (lacks : LacksJson s p e) : Fails s p e
  /-- The value is no object. -/
  | notObject {json : Json} (holds : HoldsJson s p json)
    (other : ∀ members, json ≠ .object members) :
    Fails s p (.malformedBaseline p .wrongCollection)
  /-- The object has a member that is no number, and this is the first one. -/
  | notNumber {members : List (String × Json)} {name : String} {value : Json}
    (holds : HoldsJson s p (.object members))
    (first : IsFirst (fun member => ¬ IsNumeric member.2) members (name, value)) :
    Fails s p (.malformedBaseline p (.notNumber name value))

/-- Reading members fails at the first one if it is no number, and behind it otherwise. -/
theorem Baseline.ofMembers_cons_eq_error_iff {name : String} {value : Json}
    {members : List (String × Json)} : ofMembers ((name, value) :: members) = .error fault ↔
      (¬ IsNumeric value ∧ fault = .notNumber name value) ∨
        (¬ ¬ IsNumeric value ∧ ofMembers members = .error fault) := by
  rw [ofMembers, ← score?_eq_none_iff]
  cases score? value with
  | none => simp [eq_comm]
  | some x => cases ofMembers members <;> simp

/-- Reading members fails exactly where one is no number, for the first of them. -/
theorem Baseline.ofMembers_eq_error_iff {members : List (String × Json)} :
    ofMembers members = .error fault ↔
      ∃ name value, IsFirst (fun member => ¬ IsNumeric member.2) members (name, value) ∧
        fault = .notNumber name value := by
  induction members with
  | nil =>
    constructor
    · intro failed
      cases failed
    · rintro ⟨_, _, first, _⟩
      exact absurd first not_isFirst_nil
  | cons head members ih =>
    obtain ⟨name, value⟩ := head
    rw [ofMembers_cons_eq_error_iff, ih]
    constructor
    · rintro (⟨notNumeric, rfl⟩ | ⟨numeric, other, otherValue, first, same⟩)
      · exact ⟨name, value, isFirst_cons.mpr (.inl ⟨notNumeric, rfl⟩), rfl⟩
      · exact ⟨other, otherValue, isFirst_cons.mpr (.inr ⟨numeric, first⟩), same⟩
    · rintro ⟨other, otherValue, first, rfl⟩
      rcases isFirst_cons.mp first with ⟨notNumeric, same⟩ | ⟨numeric, later⟩
      · cases same
        exact .inl ⟨notNumeric, rfl⟩
      · exact .inr ⟨numeric, other, otherValue, later, rfl⟩

/-- Loading a baseline fails in exactly these ways. -/
theorem Baseline.load_eq_error_iff : (load p).inside s = .error e ↔ Fails s p e := by
  rw [inside_load, bind_ofJsonText_eq_error_iff]
  constructor
  · rintro (lacks | ⟨json, fault, holds, refused, rfl⟩)
    · exact .lacks lacks
    · cases json with
      | object members =>
        obtain ⟨name, value, first, rfl⟩ :=
          ofMembers_eq_error_iff.mp (Except.map_eq_error_iff.mp refused)
        exact .notNumber holds first
      | _ =>
        cases refused
        exact .notObject holds nofun
  · intro fails
    cases fails with
    | lacks lacks => exact .inl lacks
    | @notObject json holds other =>
      refine .inr ⟨json, .wrongCollection, holds, ?_, rfl⟩
      cases json with
      | object members => exact absurd rfl (other members)
      | _ => rfl
    | notNumber holds first =>
      refine .inr ⟨_, _, holds, ?_, rfl⟩
      exact Except.map_eq_error_iff.mpr (ofMembers_eq_error_iff.mpr ⟨_, _, first, rfl⟩)

/-! ## The results -/

/-- Why results are not loaded. -/
inductive Results.Fails (s : Surroundings) (p : Path) : GateError → Prop where
  /-- There is no JSON value. -/
  | lacks {e : GateError} (lacks : LacksJson s p e) : Fails s p e
  /-- The value is no array. -/
  | notArray {json : Json} (holds : HoldsJson s p json) (other : ∀ entries, json ≠ .array entries) :
    Fails s p (.malformedResults p .wrongCollection)
  /-- The array has an entry that is refused, and this is the first one. -/
  | refused {entries : List Json} {entry score : Json} {name : String}
    (holds : HoldsJson s p (.array entries)) (first : IsFirst IsRefused entries entry)
    (misstates : Misstates entry name score) :
    Fails s p (.malformedResults p (.notNumber name score))

/-- Loading results fails in exactly these ways. -/
theorem Results.load_eq_error_iff : (load p).inside s = .error e ↔ Fails s p e := by
  rw [inside_load, bind_ofJsonText_eq_error_iff]
  constructor
  · rintro (lacks | ⟨json, fault, holds, refused, rfl⟩)
    · exact .lacks lacks
    · cases json with
      | array entries =>
        obtain ⟨entry, name, score, first, misstates, rfl⟩ := takeAll_eq_error_iff.mp refused
        exact .refused holds first misstates
      | _ =>
        cases refused
        exact .notArray holds nofun
  · intro fails
    cases fails with
    | lacks lacks => exact .inl lacks
    | @notArray json holds other =>
      refine .inr ⟨json, .wrongCollection, holds, ?_, rfl⟩
      cases json with
      | array entries => exact absurd rfl (other entries)
      | _ => rfl
    | refused holds first misstates =>
      exact .inr ⟨_, _, holds, takeAll_eq_error_iff.mpr ⟨_, _, _, first, misstates, rfl⟩, rfl⟩

/-! ## The thresholds -/

/-- A finite number between zero and one. -/
def IsShare (x : Float) : Prop :=
  x.isFinite = true ∧ 0.0 ≤ x ∧ x ≤ 1.0

instance (x : Float) : Decidable (IsShare x) :=
  inferInstanceAs (Decidable (_ ∧ _ ∧ _))

namespace Thresholds

variable {t : Thresholds} {x : Float} {category : Category}

/-- Both thresholds are shares. -/
def AreShares (t : Thresholds) : Prop :=
  IsShare t.flat ∧ IsShare t.embedded

/-- What is wrong with thresholds: the first one that is no share. -/
inductive Fails (t : Thresholds) : Category → Float → Prop where
  | flat (bad : ¬ IsShare t.flat) : Fails t .flat t.flat
  | embedded (good : IsShare t.flat) (bad : ¬ IsShare t.embedded) : Fails t .embedded t.embedded

/-- A fraction is a share. -/
theorem isFraction_iff_isShare : isFraction x = true ↔ IsShare x :=
  Number.isFraction_iff

/-- A float that is no share is no fraction. -/
theorem isFraction_eq_false_iff : isFraction x = false ↔ ¬ IsShare x := by
  rw [← isFraction_iff_isShare, Bool.not_eq_true]

/-- The first threshold that is no share is the invalid one. -/
theorem invalid?_of_fails (fails : t.Fails category x) : t.invalid? = some (category, x) := by
  unfold invalid?
  cases fails with
  | flat bad => rw [isFraction_eq_false_iff.mpr bad, Bool.not_false, if_pos rfl]
  | embedded good bad =>
    rw [isFraction_iff_isShare.mpr good, isFraction_eq_false_iff.mpr bad]
    rfl

/-- Thresholds that are shares are accepted. -/
theorem invalid?_of_areShares (shares : t.AreShares) : t.invalid? = none := by
  unfold invalid?
  rw [isFraction_iff_isShare.mpr shares.1, isFraction_iff_isShare.mpr shares.2]
  rfl

/-- Thresholds are shares, or the first one that is none fails. -/
theorem areShares_or_fails (t : Thresholds) : t.AreShares ∨ ∃ category x, t.Fails category x := by
  by_cases flat : IsShare t.flat
  · by_cases embedded : IsShare t.embedded
    · exact .inl ⟨flat, embedded⟩
    · exact .inr ⟨_, _, .embedded flat embedded⟩
  · exact .inr ⟨_, _, .flat flat⟩

/-- With shares for thresholds, every benchmark may lose a share. -/
theorem isShare_allowedFor (shares : t.AreShares) (benchmark : String) :
    IsShare (t.allowedFor benchmark) := by
  unfold allowedFor largerFloat
  split
  · exact shares.1
  · split
    · exact shares.2
    · split
      · exact shares.2
      · exact shares.1

end Thresholds

/-! ## The run -/

namespace Regression

variable {c : RegressionConfig} {category : Category} {x : Float} {v : Verdict}

/-- A threshold that is no share ends a run. -/
theorem run_of_fails (fails : c.thresholds.Fails category x) (s : Surroundings) :
    (run c).inside s = .error (.invalidThreshold category x) := by
  rw [inside_run]
  unfold checkThresholds
  rw [Thresholds.invalid?_of_fails fails]
  rfl

/-- With shares for thresholds, a run loads the baseline and then the results. -/
theorem run_of_areShares (shares : c.thresholds.AreShares) (s : Surroundings) :
    (run c).inside s = ((Baseline.load c.baseline).inside s).bind fun baseline =>
      ((Results.load c.current).inside s).map (verdict c.thresholds baseline) := by
  have accepted := Thresholds.invalid?_of_areShares shares
  rw [inside_run, checkThresholds_ok_iff.mpr accepted]
  rfl

/-- With shares for thresholds, a run ends with the error of the baseline, or else with that of the
results. -/
theorem run_eq_error_iff (shares : c.thresholds.AreShares) : (run c).inside s = .error e ↔
    Baseline.Fails s c.baseline e ∨
      (∀ e', ¬ Baseline.Fails s c.baseline e') ∧ Results.Fails s c.current e := by
  rw [run_of_areShares shares, Except.bind_eq_error_iff]
  simp only [Except.map_eq_error_iff, exists_and_right, Except.exists_ok_iff,
    Baseline.load_eq_error_iff, Results.load_eq_error_iff]

/-- With shares for thresholds, a run comes to a verdict where neither file fails. -/
theorem exists_run_eq_ok_iff (shares : c.thresholds.AreShares) :
    (∃ v, (run c).inside s = .ok v) ↔
      (∀ e, ¬ Baseline.Fails s c.baseline e) ∧ ∀ e, ¬ Results.Fails s c.current e := by
  simp only [Except.exists_ok_iff, run_eq_error_iff shares]
  constructor
  · intro clear
    have baseline (e : GateError) : ¬ Baseline.Fails s c.baseline e :=
      fun fails => clear e (.inl fails)
    exact ⟨baseline, fun e fails => clear e (.inr ⟨baseline, fails⟩)⟩
  · rintro ⟨baseline, results⟩ e (fails | ⟨_, fails⟩)
    · exact baseline e fails
    · exact results e fails

/-- The error for a threshold is not one of a file. -/
theorem run_ne_invalidThreshold (shares : c.thresholds.AreShares) :
    (run c).inside s ≠ .error (.invalidThreshold category x) := by
  intro failed
  rcases (run_eq_error_iff shares).mp failed with fails | ⟨_, fails⟩
  · cases fails with
    | lacks lacks => cases lacks
  · cases fails with
    | lacks lacks => cases lacks

/-- A run ends with the error for a threshold exactly where it is the first that is no share. -/
theorem run_eq_invalidThreshold_iff :
    (run c).inside s = .error (.invalidThreshold category x) ↔ c.thresholds.Fails category x := by
  refine ⟨fun failed => ?_, fun fails => run_of_fails fails s⟩
  rcases c.thresholds.areShares_or_fails with shares | ⟨category', x', fails⟩
  · exact absurd failed (run_ne_invalidThreshold shares)
  · cases (run_of_fails fails s).symm.trans failed
    exact fails

/-- A regression that is reported is measured by what its benchmark may lose. -/
theorem allowed_of_finding {t : Thresholds} {r : Results} {benchmark : String} {baseline : Float}
    {f : Finding} {d : RegressionDetail} (found : finding? t r benchmark baseline = some f)
    (detail : f.detail = some d) : d.allowed = t.allowedFor benchmark := by
  unfold finding? at found
  split at found
  · cases found
    cases detail
  · split at found
    · cases found
      cases detail
    · obtain ⟨measured, compared, rfl⟩ := Option.map_eq_some_iff.mp found
      cases detail
      unfold compare at compared
      split at compared
      · cases compared
        rfl
      · cases compared

/-- A run that comes to a verdict compares all scores by shares. -/
theorem compares_by_shares (done : (run c).inside s = .ok v) :
    (∀ benchmark, IsShare (c.thresholds.allowedFor benchmark)) ∧
      ∀ f ∈ v.findings, ∀ d, f.detail = some d → IsShare d.allowed := by
  obtain ⟨accepted, b, r, _, _, rfl⟩ := run_ok done
  have shares : c.thresholds.AreShares := by
    have fractions := Thresholds.isFraction_of_accepted accepted
    exact ⟨Thresholds.isFraction_iff_isShare.mp fractions.1,
      Thresholds.isFraction_iff_isShare.mp fractions.2⟩
  refine ⟨Thresholds.isShare_allowedFor shares, fun f member d detail => ?_⟩
  obtain ⟨entry, _, found⟩ := List.mem_filterMap.mp (show f ∈ findings c.thresholds b r from member)
  rw [allowed_of_finding found detail]
  exact Thresholds.isShare_allowedFor shares entry.1

/-- Errors come in the order of the stages. A run fails for a threshold exactly where one is no
finite number between zero and one, and for the flat one where both are none, whatever the files
hold. Otherwise it fails exactly where the baseline does, with the error of the baseline, or else
where the results do, with theirs, and comes to a verdict where neither does. A verdict compares all
scores by fractions that are finite numbers between zero and one. -/
theorem errors_by_stage (s : Surroundings) (c : RegressionConfig) :
    ((∃ category x, (run c).inside s = .error (.invalidThreshold category x)) ↔
      ¬ IsShare c.thresholds.flat ∨ ¬ IsShare c.thresholds.embedded) ∧
    (∀ category x, (run c).inside s = .error (.invalidThreshold category x) ↔
      c.thresholds.Fails category x) ∧
    (∀ category x, (run c).inside s = .error (.invalidThreshold category x) →
      ∀ s', (run c).inside s' = .error (.invalidThreshold category x)) ∧
    (IsShare c.thresholds.flat → IsShare c.thresholds.embedded →
      (∀ e, (run c).inside s = .error e ↔ Baseline.Fails s c.baseline e ∨
        (∀ e', ¬ Baseline.Fails s c.baseline e') ∧ Results.Fails s c.current e) ∧
      ((∃ v, (run c).inside s = .ok v) ↔
        (∀ e, ¬ Baseline.Fails s c.baseline e) ∧ ∀ e, ¬ Results.Fails s c.current e)) ∧
    ∀ v, (run c).inside s = .ok v →
      (∀ benchmark, IsShare (c.thresholds.allowedFor benchmark)) ∧
      ∀ f ∈ v.findings, ∀ d, f.detail = some d → IsShare d.allowed := by
  refine ⟨⟨?_, ?_⟩, fun _ _ => run_eq_invalidThreshold_iff, fun category x failed s' => ?_,
    fun flat embedded => ?_, fun v done => compares_by_shares done⟩
  · rintro ⟨category, x, failed⟩
    cases run_eq_invalidThreshold_iff.mp failed with
    | flat bad => exact .inl bad
    | embedded _ bad => exact .inr bad
  · intro bad
    rcases c.thresholds.areShares_or_fails with shares | ⟨category, x, fails⟩
    · exact absurd shares (by unfold Thresholds.AreShares; tauto)
    · exact ⟨category, x, run_of_fails fails s⟩
  · exact run_of_fails (run_eq_invalidThreshold_iff.mp failed) s'
  · exact ⟨fun e => run_eq_error_iff ⟨flat, embedded⟩, exists_run_eq_ok_iff ⟨flat, embedded⟩⟩

/-- A project with a baseline that holds something else than a number, an empty one, and no
results. -/
def brokenProject : Surroundings where
  tree := ⟨[(["p", "baseline.json"], .file "\x7b\"a\":1,\"b\":true\x7d".toUTF8),
    (["p", "empty.json"], .file "\x7b\x7d".toUTF8)]⟩
  workingDirectory := ["p"]

/-- A comparison in the broken project. -/
def brokenConfig (flat embedded : Float) (baseline : String) : RegressionConfig where
  baseline := ⟨baseline⟩
  current := ⟨"results.json"⟩
  thresholds := { flat, embedded }

/-- Of several faults, the one of the first stage is reported: that of the flat threshold, then that
of the baseline and then that of the results. -/
theorem broken_errors :
    (run (brokenConfig (0.0 / 0.0) 2.0 "baseline.json")).inside brokenProject =
      .error (.invalidThreshold .flat (0.0 / 0.0)) ∧
    (run (brokenConfig 0.0 1.0 "baseline.json")).inside brokenProject =
      .error (.malformedBaseline ⟨"baseline.json"⟩ (.notNumber "b" (.bool true))) ∧
    (run (brokenConfig 0.0 1.0 "empty.json")).inside brokenProject =
      .error (.missingInput ⟨"results.json"⟩) := by
  have noShare : ¬ IsShare (0.0 / 0.0) := by decide +kernel
  have none : IsShare 0.0 := by decide +kernel
  have whole : IsShare 1.0 := by decide +kernel
  have notNumeric : ¬ IsNumeric (.bool true) := nofun
  have holds : HoldsJson brokenProject ⟨"baseline.json"⟩
      (.object [("a", .number (.word 1)), ("b", .bool true)]) := ⟨_, ⟨_, rfl⟩, rfl⟩
  have first : IsFirst (fun member => ¬ IsNumeric member.2)
      [("a", .number (.word 1)), ("b", .bool true)] ("b", .bool true) :=
    isFirst_cons.mpr (.inr ⟨not_not.mpr (.number _), isFirst_cons.mpr (.inl ⟨notNumeric, rfl⟩)⟩)
  have empty : (Baseline.load ⟨"empty.json"⟩).inside brokenProject = .ok ⟨[]⟩ := rfl
  have absent : brokenProject.tree.Absent brokenProject.workingDirectory ⟨"results.json"⟩ :=
    FileTree.resolve_eq_notFound_iff.mp rfl
  refine ⟨?_, ?_, ?_⟩
  · have stages := errors_by_stage brokenProject (brokenConfig (0.0 / 0.0) 2.0 "baseline.json")
    exact (stages.2.1 .flat (0.0 / 0.0)).mpr (.flat noShare)
  · have stages := errors_by_stage brokenProject (brokenConfig 0.0 1.0 "baseline.json")
    exact ((stages.2.2.2.1 none whole).1 _).mpr (.inl (.notNumber holds first))
  · have stages := errors_by_stage brokenProject (brokenConfig 0.0 1.0 "empty.json")
    have loaded (e : GateError) : ¬ Baseline.Fails brokenProject ⟨"empty.json"⟩ e := by
      rw [← Baseline.load_eq_error_iff, empty]
      exact fun failed => (nomatch failed)
    exact ((stages.2.2.2.1 none whole).1 _).mpr (.inr ⟨loaded, .lacks (.missing absent)⟩)

end Regression
end QualityGates
