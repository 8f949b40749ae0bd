import QualityGates.Proofs.Json.Members
import QualityGates.Proofs.Lookup
import QualityGates.Proofs.Result
import QualityGates.Regression.Run

/-!
# Runs of the benchmark gate, stage by stage

A run checks the thresholds, loads the baseline and loads the results. `run_ok` opens a run that
comes to a verdict into these stages, and `Baseline.load_ok` and `Results.load_ok` open the loading
of a file into the text that was read and what was made of it.
-/

namespace QualityGates

variable {s : Surroundings} {p : Path}

section Loading

variable {α : Type} {read : Json → Except ScoreFault α} {reword : ScoreFault → GateError} {a : α}

/-- Makes something of the JSON value in a text. -/
def ofJsonText (p : Path) (read : Json → Except ScoreFault α) (reword : ScoreFault → GateError)
    (text : String) : Except GateError α :=
  match Json.ofText text with
  | .error error => .error (.notJson p error)
  | .ok json => (read json).mapError reword

/-- What is loaded is made of the JSON value in the text at a path. -/
theorem bind_ofJsonText_ok
    (loaded : ((Lookup.requiredText p).inside s).bind (ofJsonText p read reword) = .ok a) :
    ∃ text json, (Lookup.text p).inside s = .ok text ∧ Json.ofText text = .ok json ∧
      read json = .ok a := by
  rw [Lookup.inside_requiredText, Except.bind_eq_ok_iff] at loaded
  obtain ⟨text, found, made⟩ := loaded
  rw [Except.mapError_eq_ok_iff] at found
  unfold ofJsonText at made
  cases parsed : Json.ofText text with
  | error error =>
    rw [parsed] at made
    cases made
  | ok json =>
    rw [parsed] at made
    exact ⟨text, json, found, parsed, Except.mapError_eq_ok_iff.mp made⟩

end Loading

/-- A baseline is made of the JSON value in a text. -/
theorem Baseline.inside_load : (Baseline.load p).inside s =
    ((Lookup.requiredText p).inside s).bind (ofJsonText p ofJson (.malformedBaseline p)) := by
  unfold Baseline.load
  rw [Lookup.inside_bind, Lookup.inside_pure]
  rfl

/-- Results are made of the JSON value in a text. -/
theorem Results.inside_load : (Results.load p).inside s =
    ((Lookup.requiredText p).inside s).bind (ofJsonText p ofJson (.malformedResults p)) := by
  unfold Results.load
  rw [Lookup.inside_bind, Lookup.inside_pure]
  rfl

/-- A baseline that is loaded has the scores of the object in its text. -/
theorem Baseline.load_ok {b : Baseline} (loaded : (Baseline.load p).inside s = .ok b) :
    ∃ text written, (Lookup.text p).inside s = .ok text ∧
      Json.writtenMembers text = .ok written ∧
      Baseline.ofJson (.object (Json.mergeMembers written)) = .ok b := by
  rw [Baseline.inside_load] at loaded
  obtain ⟨text, json, found, parsed, read⟩ := bind_ofJsonText_ok loaded
  cases json with
  | object members =>
    obtain ⟨written, there, rfl⟩ := Json.ofText_object_iff.mp parsed
    exact ⟨text, written, found, there, read⟩
  | _ => cases read

/-- Results that are loaded have the scores of the array in their text. -/
theorem Results.load_ok {r : Results} (loaded : (Results.load p).inside s = .ok r) :
    ∃ text entries, (Lookup.text p).inside s = .ok text ∧
      Json.ofText text = .ok (.array entries) ∧ Results.ofJson (.array entries) = .ok r := by
  rw [Results.inside_load] at loaded
  obtain ⟨text, json, found, parsed, read⟩ := bind_ofJsonText_ok loaded
  cases json with
  | array entries => exact ⟨text, entries, found, parsed, read⟩
  | _ => cases read

/-- Thresholds that are accepted are fractions. -/
theorem Thresholds.isFraction_of_accepted {t : Thresholds} (accepted : t.invalid? = none) :
    isFraction t.flat = true ∧ isFraction t.embedded = true := by
  unfold Thresholds.invalid? at accepted
  cases flat : isFraction t.flat <;> cases embedded : isFraction t.embedded <;>
    simp [flat, embedded] at accepted ⊢

namespace Regression

/-- The thresholds are checked before the baseline is loaded, and that before the results. -/
theorem inside_run {s : Surroundings} {c : RegressionConfig} : (run c).inside s =
    (checkThresholds c.thresholds).bind fun _ =>
      ((Baseline.load c.baseline).inside s).bind fun baseline =>
        ((Results.load c.current).inside s).map (verdict c.thresholds baseline) := by
  unfold run
  cases checkThresholds c.thresholds with
  | error e => rfl
  | ok _ =>
    dsimp only
    rw [Lookup.inside_bind]
    cases (Baseline.load c.baseline).inside s with
    | error e => rfl
    | ok baseline =>
      show Lookup.inside s (_ >>= _) = Except.map _ _
      rw [Lookup.inside_bind]
      cases (Results.load c.current).inside s <;> rfl

/-- Thresholds that pass the check are accepted. -/
theorem checkThresholds_ok_iff {t : Thresholds} :
    checkThresholds t = .ok () ↔ t.invalid? = none := by
  unfold checkThresholds
  cases t.invalid? with
  | none => exact ⟨fun _ => rfl, fun _ => rfl⟩
  | some invalid => exact ⟨fun h => (nomatch h), fun h => (nomatch h)⟩

/-- A run that comes to a verdict has accepted thresholds, a baseline and results. -/
theorem run_ok {s : Surroundings} {c : RegressionConfig} {v : Verdict}
    (done : (run c).inside s = .ok v) :
    c.thresholds.invalid? = none ∧ ∃ b r, (Baseline.load c.baseline).inside s = .ok b ∧
      (Results.load c.current).inside s = .ok r ∧ verdict c.thresholds b r = v := by
  rw [inside_run, Except.bind_eq_ok_iff] at done
  obtain ⟨_, checked, done⟩ := done
  obtain ⟨b, baseline, done⟩ := Except.bind_eq_ok_iff.mp done
  obtain ⟨r, results, same⟩ := Except.map_eq_ok_iff.mp done
  exact ⟨checkThresholds_ok_iff.mp checked, b, r, baseline, results, same⟩

end Regression
end QualityGates
