import Mathlib.Data.List.Forall2
import QualityGates.Drift.Targets
import QualityGates.Proofs.Lookup
import QualityGates.Proofs.Result

/-!
# What the drift gate reads

A path is either passed over or read. The lemmas here open a successful reading of a list of paths
into the documents that were read, in order, and the paths that were passed over, in order.
-/

namespace QualityGates

namespace Drift

/-- Whether an allow-list passes over a path of a project. -/
def passesOver (l : Layout) (allowlist : Allowlist) (path : Path) : Bool :=
  allowlist.allows (l.relative path)

/-- The paths that an allow-list leaves to be checked. -/
def keptPaths (l : Layout) (allowlist : Allowlist) (paths : List Path) : List Path :=
  paths.filter fun path => !passesOver l allowlist path

/-- What the text at a path is as a document. -/
def ReadAs (s : Surroundings) (l : Layout) (path : Path) (d : Document) : Prop :=
  ∃ text, (Lookup.text path).inside s = .ok text ∧ d = Document.ofText (l.relative path) text

namespace Targets

variable {s : Surroundings} {l : Layout} {allowlist : Allowlist} {path : Path}
  {paths : List Path}

/-- Puts a path that is passed over in front of what comes after it. -/
def addPassed (relative : String) (t : Targets) : Targets :=
  { t with allowlisted := relative :: t.allowlisted }

/-- Puts a document in front of what comes after it. -/
def addDocument (d : Document) (t : Targets) : Targets :=
  { t with documents := d :: t.documents }

/-- The readme comes first, and the markdown files below the documents directory follow if there is
such a directory. -/
theorem inside_paths : (Targets.paths l).inside s = .ok (l.readme ::
    if s.tree.isDirectory s.workingDirectory l.docs then
      markdownFiles (s.tree.filesBelow s.workingDirectory l.docs)
    else []) := by
  unfold Targets.paths
  rw [Lookup.inside_bind, Lookup.inside_question]
  cases directory : s.tree.isDirectory s.workingDirectory l.docs with
  | false => simp only [Surroundings.answer, directory]; rfl
  | true => simp only [Surroundings.answer, directory]; rfl

/-- Reading no paths gives nothing. -/
theorem inside_read_nil : (read l allowlist []).inside s = .ok {} := rfl

/-- A path that is passed over is not read. -/
theorem inside_read_passed (skipped : passesOver l allowlist path = true) :
    (read l allowlist (path :: paths)).inside s =
      ((read l allowlist paths).inside s).map (addPassed (l.relative path)) := by
  unfold passesOver at skipped
  rw [read, if_pos skipped, Lookup.inside_bind, Lookup.inside_pure]
  rfl

/-- A path that is kept is read before those behind it. -/
theorem inside_read_kept (kept : passesOver l allowlist path = false) :
    (read l allowlist (path :: paths)).inside s =
      (((Lookup.text path).inside s).mapError (GateError.ofReadFault path)).bind fun text =>
        ((read l allowlist paths).inside s).map
          (addDocument (Document.ofText (l.relative path) text)) := by
  unfold passesOver at kept
  rw [read, if_neg (by rw [kept]; exact Bool.false_ne_true), Lookup.inside_bind,
    Lookup.inside_requiredText]
  cases (Lookup.text path).inside s with
  | error fault => rfl
  | ok text =>
    show Lookup.inside s (_ >>= _) = _
    rw [Lookup.inside_bind, Lookup.inside_pure]
    rfl

/-- A successful reading read every path that is kept and listed every path that is passed over,
both in the order of the paths. -/
theorem read_ok {t : Targets} (done : (read l allowlist paths).inside s = .ok t) :
    List.Forall₂ (ReadAs s l) (keptPaths l allowlist paths) t.documents ∧
      t.allowlisted = (paths.filter (passesOver l allowlist)).map l.relative := by
  induction paths generalizing t with
  | nil =>
    rw [inside_read_nil] at done
    cases done
    exact ⟨.nil, rfl⟩
  | cons path paths ih =>
    cases skipped : passesOver l allowlist path with
    | true =>
      rw [inside_read_passed skipped] at done
      obtain ⟨t', rest, rfl⟩ := Except.map_eq_ok_iff.mp done
      obtain ⟨documents, passed⟩ := ih rest
      rw [keptPaths, List.filter_cons_of_neg (by simp [skipped]), List.filter_cons_of_pos skipped,
        List.map_cons, ← passed]
      exact ⟨documents, rfl⟩
    | false =>
      rw [inside_read_kept skipped] at done
      obtain ⟨text, found, done⟩ := Except.bind_eq_ok_iff.mp done
      obtain ⟨t', rest, rfl⟩ := Except.map_eq_ok_iff.mp done
      obtain ⟨documents, passed⟩ := ih rest
      rw [Except.mapError_eq_ok_iff] at found
      rw [keptPaths, List.filter_cons_of_pos (by simp [skipped]),
        List.filter_cons_of_neg (by simp [skipped]), ← passed]
      exact ⟨.cons ⟨text, found, rfl⟩ documents, rfl⟩

/-- Documents are loaded by finding their paths and reading those. -/
theorem inside_load : (load l allowlist).inside s =
    ((Targets.paths l).inside s).bind fun paths => (read l allowlist paths).inside s := by
  unfold load
  rw [Lookup.inside_bind]
  cases (Targets.paths l).inside s <;> rfl

end Targets
end Drift
end QualityGates
