import QualityGates.Allowlist
import QualityGates.Proofs.First
import QualityGates.Proofs.Glob.Set
import QualityGates.Proofs.Result

/-!
# What an allow-list passes over

An allow-list passes over a path when one of its globs takes it, so only the set of the globs
matters. A list is accepted when all of its texts are globs and these make a set. Otherwise it is
rejected, and the error names the first text that is no glob, or else all of them.
-/

namespace QualityGates.Allowlist

/-- Whether a text is a glob. -/
def IsGlob (pattern : String) : Prop :=
  ∃ glob, Glob.ofText pattern = .ok glob

instance (pattern : String) : Decidable (IsGlob pattern) :=
  match read : Glob.ofText pattern with
  | .ok glob => .isTrue ⟨glob, read⟩
  | .error _ => .isFalse fun ⟨_, h⟩ => by rw [h] at read; cases read

/-- The globs among some texts. -/
def globsOf (patterns : List String) : List Glob :=
  patterns.filterMap fun pattern => (Glob.ofText pattern).toOption

/-- Texts that are globs which make a set. -/
def Accepted (patterns : List String) : Prop :=
  (∀ pattern ∈ patterns, IsGlob pattern) ∧ Glob.setFault? (globsOf patterns) = none

instance (patterns : List String) : Decidable (Accepted patterns) :=
  inferInstanceAs (Decidable (_ ∧ _))

/-- Why a list is rejected, with what is named and what is wrong with it. -/
inductive Rejected (patterns : List String) : String → GlobFault → Prop where
  /-- A text is no glob, and the first one is named. -/
  | unread {glob : String} {fault : GlobFault} (first : IsFirst (¬ IsGlob ·) patterns glob)
    (read : Glob.ofText glob = .error fault) : Rejected patterns glob fault
  /-- All texts are globs but make no set, and all are named. -/
  | unmade {fault : GlobFault} (globs : ∀ pattern ∈ patterns, IsGlob pattern)
    (unmade : Glob.setFault? (globsOf patterns) = some fault) :
    Rejected patterns (String.intercalate "," patterns) fault

/-- Whether one of some globs takes a path. -/
def anyTakes (patterns : List String) (path : String) : Bool :=
  patterns.any fun pattern => (Glob.ofText pattern).toOption.any fun glob => glob.isMatch path

variable {patterns more : List String} {pattern glob : String} {fault : GlobFault}

/-- A glob is read as itself. -/
theorem readEntry_ok {glob : Glob} (read : Glob.ofText pattern = .ok glob) :
    readEntry pattern = .ok (pattern, glob) := by
  unfold readEntry
  rw [read]

/-- A text that is no glob is named in the error. -/
theorem readEntry_error {fault : GlobFault} (read : Glob.ofText pattern = .error fault) :
    readEntry pattern = .error (.invalidGlob pattern fault) := by
  unfold readEntry
  rw [read]

/-- A glob is one of its list. -/
theorem globsOf_cons {token : Glob} (read : Glob.ofText pattern = .ok token) :
    globsOf (pattern :: patterns) = token :: globsOf patterns := by
  unfold globsOf
  rw [List.filterMap_cons, read]
  rfl

/-- Globs are read one by one, and together they take what one of them takes. -/
theorem readEntries_ok (globs : ∀ pattern ∈ patterns, IsGlob pattern) :
    ∃ entries, readEntries patterns = .ok entries ∧ entries.map Prod.fst = patterns ∧
      entries.map Prod.snd = globsOf patterns ∧
      ∀ path, entries.any (fun entry => entry.2.isMatch path) = anyTakes patterns path := by
  induction patterns with
  | nil => exact ⟨[], rfl, rfl, rfl, fun _ => rfl⟩
  | cons pattern patterns ih =>
    rw [List.forall_mem_cons] at globs
    obtain ⟨⟨glob, read⟩, later⟩ := globs
    obtain ⟨entries, rest, names, tokens, takes⟩ := ih later
    have first : (Glob.ofText pattern).toOption = some glob := by rw [read]; rfl
    refine ⟨(pattern, glob) :: entries, ?_, ?_, ?_, fun path => ?_⟩
    · rw [readEntries, readEntry_ok read]
      dsimp only
      rw [rest]
    · rw [List.map_cons, names]
    · rw [List.map_cons, tokens, globsOf_cons read]
    · rw [List.any_cons, takes path]
      unfold anyTakes
      rw [List.any_cons, first, Option.any_some]

/-- The allow-list of an accepted list passes over the paths that one of the globs takes. -/
theorem ofPatterns_ok (accepted : Accepted patterns) :
    ∃ allowlist, ofPatterns patterns = .ok allowlist ∧ allowlist.patterns = patterns ∧
      ∀ path, allowlist.allows path = anyTakes patterns path := by
  obtain ⟨entries, read, names, tokens, takes⟩ := readEntries_ok accepted.1
  refine ⟨⟨entries⟩, ?_, names, takes⟩
  unfold ofPatterns
  rw [read]
  show ofEntries entries = _
  unfold ofEntries
  rw [tokens, accepted.2]

/-- A list with a text that is no glob is rejected, and the first such text is named. -/
theorem readEntries_error (first : IsFirst (¬ IsGlob ·) patterns glob)
    (read : Glob.ofText glob = .error fault) :
    readEntries patterns = .error (.invalidGlob glob fault) := by
  induction patterns with
  | nil => exact absurd first not_isFirst_nil
  | cons pattern patterns ih =>
    rw [readEntries]
    rcases isFirst_cons.mp first with ⟨_, rfl⟩ | ⟨isGlob, later⟩
    · rw [readEntry_error read]
    · obtain ⟨token, read⟩ := not_not.mp isGlob
      rw [readEntry_ok read]
      dsimp only
      rw [ih later]

/-- A list that is rejected gives the error that tells why. -/
theorem ofPatterns_error (rejected : Rejected patterns glob fault) :
    ofPatterns patterns = .error (.invalidGlob glob fault) := by
  unfold ofPatterns
  cases rejected with
  | unread first read =>
    rw [readEntries_error first read]
    rfl
  | unmade globs unmade =>
    obtain ⟨entries, read, names, tokens, _⟩ := readEntries_ok globs
    rw [read]
    show ofEntries entries = _
    unfold ofEntries
    rw [tokens, unmade, names]

/-- Every list is accepted or rejected. -/
theorem accepted_or_rejected (patterns : List String) :
    Accepted patterns ∨ ∃ glob fault, Rejected patterns glob fault := by
  by_cases globs : ∀ pattern ∈ patterns, IsGlob pattern
  · cases unmade : Glob.setFault? (globsOf patterns) with
    | none => exact .inl ⟨globs, unmade⟩
    | some fault => exact .inr ⟨_, _, .unmade globs unmade⟩
  · have bad : ∃ pattern ∈ patterns, ¬ IsGlob pattern := by simpa using globs
    obtain ⟨glob, first⟩ := exists_isFirst bad
    cases read : Glob.ofText glob with
    | ok token => exact absurd ⟨token, read⟩ first.holds
    | error fault => exact .inr ⟨_, _, .unread first read⟩

end QualityGates.Allowlist
