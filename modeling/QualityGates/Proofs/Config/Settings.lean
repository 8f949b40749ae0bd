import QualityGates.Config.Regression
import QualityGates.Proofs.Config.Drift

/-!
# The settings that steps lead to

Every step gives something for some settings and leaves the others alone. Globs add up in the order
of the steps; of everything else the last thing that is given counts, whatever step it comes from.
So the settings of a configuration can be read off its steps one by one, and two steps that give
nothing for the same setting can change places.
-/

namespace QualityGates

section

variable {α β : Type}

/-- The last thing that some steps give. -/
def lastGiven (f : α → Option β) (xs : List α) : Option β :=
  (xs.filterMap f).getLast?

/-- One more step gives the last thing, unless it gives nothing. -/
theorem lastGiven_concat (f : α → Option β) (xs : List α) (x : α) :
    lastGiven f (xs ++ [x]) = (f x).or (lastGiven f xs) := by
  have single : ([x].filterMap f).getLast? = f x := by cases given : f x <;> simp [given]
  rw [lastGiven, List.filterMap_append, List.getLast?_append, single, lastGiven]

variable {x y : Option α}

/-- Of two things of which at most one is given, it does not matter which one is asked for first. -/
theorem option_or_comm (apart : ¬ (x ≠ none ∧ y ≠ none)) (last : Option α) :
    y.or (x.or last) = x.or (y.or last) := by
  rcases not_and_or.mp apart with none | none <;>
    rw [not_not.mp none, Option.none_or, Option.none_or]

/-- The same for what is taken where neither is given. -/
theorem option_getD_comm (apart : ¬ (x ≠ none ∧ y ≠ none)) (last : α) :
    y.getD (x.getD last) = x.getD (y.getD last) := by
  rcases not_and_or.mp apart with none | none <;>
    rw [not_not.mp none, Option.getD_none, Option.getD_none]

/-- What is not given is not given in another form either. -/
theorem option_map_apart (f : α → β) (apart : ¬ (x ≠ none ∧ y ≠ none)) :
    ¬ (x.map f ≠ none ∧ y.map f ≠ none) := by
  rwa [ne_eq, ne_eq, Option.map_eq_none_iff, Option.map_eq_none_iff]

end

/-! ## The drift gate -/

/-- What the steps of a drift configuration can give something for. -/
inductive DriftSetting where
  | allowlist
  | baselineOverride
  | staleVersions
  | manifest

namespace DriftStep

/-- The globs that a step gives. -/
def globs : DriftStep → List String
  | fileSection s => s.allowlist
  | allowlist globs => globs
  | baselineOverride _ | staleVersions _ | manifest _ => []

/-- The version that a step gives, unless it is blank. -/
def filledVersion? (s : DriftStep) : Option String :=
  s.version?.filter fun version => !version.toList.all Text.isBlank

/-- The literals that a step gives, if there are any. -/
def someLiterals? (s : DriftStep) : Option (List String) :=
  if s.literals = [] then none else some s.literals

/-- The manifest that a step gives. -/
def manifest? : DriftStep → Option Path
  | fileSection s => s.manifest.map Path.mk
  | manifest path => path
  | allowlist _ | baselineOverride _ | staleVersions _ => none

/-- A step gives something for a setting. -/
def Touches (s : DriftStep) : DriftSetting → Prop
  | .allowlist => s.globs ≠ []
  | .baselineOverride => s.filledVersion? ≠ none
  | .staleVersions => s.someLiterals? ≠ none
  | .manifest => s.manifest? ≠ none

/-- No setting is given something for by both of two steps. -/
def Apart (a b : DriftStep) : Prop :=
  ∀ setting, ¬ (a.Touches setting ∧ b.Touches setting)

end DriftStep

namespace DriftConfig

/-- A version that is not blank is taken over trimmed. -/
theorem bind_notBlank (version : Option String) : version.bind notBlank =
    (version.filter fun version => !version.toList.all Text.isBlank).map Text.trimmed := by
  cases version with
  | none => rfl
  | some version =>
    rw [Option.bind_some, notBlank, Option.filter_some, Text.trimmed_isEmpty]
    cases version.toList.all Text.isBlank <;> rfl

/-- What a step does to a configuration, setting by setting. -/
theorem step_eq (c : DriftConfig) (s : DriftStep) : c.step s = {
    layout := { c.layout with
      manifest := (s.manifest?.map c.layout.root.join).getD c.layout.manifest }
    allowlist := c.allowlist ++ s.globs
    baselineOverride := (s.filledVersion?.map Text.trimmed).or c.baselineOverride
    staleVersions := s.someLiterals?.getD c.staleVersions } := by
  have manifest (c : DriftConfig) (path : Option Path) : c.setManifest path =
      { c with layout := { c.layout with
          manifest := (path.map c.layout.root.join).getD c.layout.manifest } } := by
    cases path <;> rfl
  have literals (c : DriftConfig) (literals : List String) : c.setLiterals literals =
      { c with staleVersions :=
          (if literals = [] then none else some literals).getD c.staleVersions } := by
    cases literals <;> rfl
  have version (c : DriftConfig) (version : Option String) : c.setBaseline version =
      { c with baselineOverride := ((version.filter fun version =>
          !version.toList.all Text.isBlank).map Text.trimmed).or c.baselineOverride } := by
    rw [setBaseline, bind_notBlank]
  cases s with
  | fileSection s =>
    rw [step, literals, version, manifest]
    rfl
  | allowlist globs => rfl
  | baselineOverride given =>
    rw [step, version, DriftStep.globs, List.append_nil]
    rfl
  | staleVersions given =>
    rw [step, literals, DriftStep.globs, List.append_nil]
    rfl
  | manifest path =>
    rw [step, manifest, DriftStep.globs, List.append_nil]
    rfl

/-- What steps from a root lead to, setting by setting. -/
theorem ofSteps_eq (root : Path) (steps : List DriftStep) : ofSteps root steps = {
    layout := { Layout.ofRoot root with
      manifest := ((lastGiven DriftStep.manifest? steps).map root.join).getD
        (root.child "pom.xml") }
    allowlist := steps.flatMap DriftStep.globs
    baselineOverride := (lastGiven DriftStep.filledVersion? steps).map Text.trimmed
    staleVersions := (lastGiven DriftStep.someLiterals? steps).getD [] } := by
  induction steps using List.reverseRecOn with
  | nil => rfl
  | append_singleton steps s ih =>
    rw [ofSteps_concat, step_eq, ih, lastGiven_concat, lastGiven_concat, lastGiven_concat,
      List.flatMap_append, List.flatMap_singleton]
    cases s.manifest? <;> cases s.filledVersion? <;> cases s.someLiterals? <;> rfl

/-- Steps that give nothing for the same setting lead to the same in both orders. -/
theorem step_comm (c : DriftConfig) {a b : DriftStep} (apart : a.Apart b) :
    (c.step a).step b = (c.step b).step a := by
  have globs : a.globs ++ b.globs = b.globs ++ a.globs := by
    rcases not_and_or.mp (apart .allowlist) with none | none <;>
      rw [not_not.mp none, List.append_nil, List.nil_append]
  have version := option_or_comm (option_map_apart Text.trimmed (apart .baselineOverride))
  have literals := option_getD_comm (apart .staleVersions)
  have manifest := option_getD_comm (option_map_apart c.layout.root.join (apart .manifest))
  simp only [step_eq, List.append_assoc, globs, version, literals, manifest]

/-- The settings of a configuration are those that steps from a root lead to. -/
structure IsSetBy (c : DriftConfig) (root : Path) (steps : List DriftStep) : Prop where
  /-- All globs that are given, in the order of the steps. -/
  allowlist : c.allowlist = steps.flatMap DriftStep.globs
  /-- The last version that is given and not blank, trimmed. -/
  baselineOverride : c.baselineOverride =
    (lastGiven DriftStep.filledVersion? steps).map Text.trimmed
  /-- The last literals that are given, if there are any. -/
  staleVersions : c.staleVersions = (lastGiven DriftStep.someLiterals? steps).getD []
  /-- The last manifest that is given, as it is when it is absolute and below the root otherwise. -/
  manifest : ∀ path, lastGiven DriftStep.manifest? steps = some path →
    c.layout.manifest = if path.isAbsolute then path else root.join path
  /-- The usual manifest where none is given. -/
  usualManifest : lastGiven DriftStep.manifest? steps = none →
    c.layout.manifest = root.child "pom.xml"
  /-- The other places are those of the root. -/
  places : c.layout.root = root ∧ c.layout.readme = root.child "README.md" ∧
    c.layout.docs = root.child "docs" ∧ c.layout.config = root.child "ci-gates.yaml"

/-- Steps from a root lead to what they give. -/
theorem isSetBy_ofSteps (root : Path) (steps : List DriftStep) :
    (ofSteps root steps).IsSetBy root steps := by
  have places : (ofSteps root steps).layout = { Layout.ofRoot root with
      manifest := ((lastGiven DriftStep.manifest? steps).map root.join).getD
        (root.child "pom.xml") } := by
    rw [ofSteps_eq]
  refine ⟨by rw [ofSteps_eq], by rw [ofSteps_eq], by rw [ofSteps_eq], ?_, ?_, ?_⟩
  · intro path given
    rw [places, given]
    show root.join path = _
    unfold Path.join
    cases path.isAbsolute <;> rfl
  · intro given
    rw [places, given]
    rfl
  · rw [places]
    exact ⟨rfl, rfl, rfl, rfl⟩

end DriftConfig

/-! ## The benchmark gate -/

namespace RegressionStep

/-- The fraction that a step gives for a category. -/
def fraction? : Category → RegressionStep → Option Float
  | .flat, fileSection s => s.flat
  | .embedded, fileSection s => s.embedded
  | .flat, thresholds flat _ => flat
  | .embedded, thresholds _ embedded => embedded

/-- No fraction is given by both of two steps. -/
def Apart (a b : RegressionStep) : Prop :=
  ∀ category, ¬ (a.fraction? category ≠ none ∧ b.fraction? category ≠ none)

end RegressionStep

namespace RegressionConfig

/-- A step takes over the fractions that it gives. -/
theorem step_eq (c : RegressionConfig) (s : RegressionStep) : c.step s =
    { c with thresholds := c.thresholds.set (s.fraction? .flat) (s.fraction? .embedded) } := by
  cases s <;> rfl

/-- The configuration after one more step. -/
theorem ofSteps_concat (baseline current : Path) (steps : List RegressionStep)
    (s : RegressionStep) : ofSteps baseline current (steps ++ [s]) =
      (ofSteps baseline current steps).step s := by
  unfold ofSteps
  rw [List.foldl_append]
  rfl

/-- What steps lead to, fraction by fraction. -/
theorem ofSteps_eq (baseline current : Path) (steps : List RegressionStep) :
    ofSteps baseline current steps = {
      baseline, current
      thresholds := {
        flat := (lastGiven (RegressionStep.fraction? .flat) steps).getD 0.10
        embedded := (lastGiven (RegressionStep.fraction? .embedded) steps).getD 0.15 } } := by
  induction steps using List.reverseRecOn with
  | nil => rfl
  | append_singleton steps s ih =>
    rw [ofSteps_concat, step_eq, ih, lastGiven_concat, lastGiven_concat]
    cases s.fraction? .flat <;> cases s.fraction? .embedded <;> rfl

/-- Steps that give no fraction for the same category lead to the same in both orders. -/
theorem step_comm (c : RegressionConfig) {a b : RegressionStep} (apart : a.Apart b) :
    (c.step a).step b = (c.step b).step a := by
  have flat := option_getD_comm (apart .flat)
  have embedded := option_getD_comm (apart .embedded)
  simp only [step_eq, Thresholds.set, flat, embedded]

/-- The settings of a configuration are those that steps lead to. -/
structure IsSetBy (c : RegressionConfig) (baseline current : Path) (steps : List RegressionStep) :
    Prop where
  /-- The last fraction that is given for benchmarks of the first category, or the usual one. -/
  flat : c.thresholds.flat = (lastGiven (RegressionStep.fraction? .flat) steps).getD 0.10
  /-- The last fraction that is given for benchmarks of the second category, or the usual one. -/
  embedded : c.thresholds.embedded =
    (lastGiven (RegressionStep.fraction? .embedded) steps).getD 0.15
  /-- No step changes what is compared. -/
  paths : c.baseline = baseline ∧ c.current = current
  /-- No step changes the markers of the categories. -/
  markers : c.thresholds.flatMarker = ".flat_" ∧ c.thresholds.embeddedMarker = ".embedded_"

/-- Steps lead to what they give. -/
theorem isSetBy_ofSteps (baseline current : Path) (steps : List RegressionStep) :
    (ofSteps baseline current steps).IsSetBy baseline current steps := by
  rw [ofSteps_eq]
  exact ⟨rfl, rfl, ⟨rfl, rfl⟩, rfl, rfl⟩

end RegressionConfig

/-- Steps from a root, or from two files, lead to a configuration that has all globs they give and
otherwise the last thing that they give for each setting, or the usual one. Two steps that follow
each other and give nothing for the same setting can change places, whatever comes before and after
them. -/
theorem settings_of_steps :
    (∀ root steps, (DriftConfig.ofSteps root steps).IsSetBy root steps) ∧
    (∀ baseline current steps,
      (RegressionConfig.ofSteps baseline current steps).IsSetBy baseline current steps) ∧
    (∀ (c : DriftConfig) (before after : List DriftStep) (a b : DriftStep), a.Apart b →
      (before ++ a :: b :: after).foldl DriftConfig.step c =
        (before ++ b :: a :: after).foldl DriftConfig.step c) ∧
    ∀ (c : RegressionConfig) (before after : List RegressionStep) (a b : RegressionStep),
      a.Apart b → (before ++ a :: b :: after).foldl RegressionConfig.step c =
        (before ++ b :: a :: after).foldl RegressionConfig.step c := by
  refine ⟨DriftConfig.isSetBy_ofSteps, RegressionConfig.isSetBy_ofSteps, ?_, ?_⟩
  · intro c before after a b apart
    simp only [List.foldl_append, List.foldl_cons, DriftConfig.step_comm _ apart]
  · intro c before after a b apart
    simp only [List.foldl_append, List.foldl_cons, RegressionConfig.step_comm _ apart]

/-- Steps of all kinds, with settings that are given twice, not at all, blank or empty. -/
def mixedSteps : List DriftStep :=
  [.fileSection ⟨["a*"], some "release.xml", some " 1.0.0 ", ["0.8", "0.9"]⟩, .allowlist ["b"],
    .baselineOverride (some " \t"), .staleVersions [], .manifest (some ⟨"/build/pom.xml"⟩),
    .fileSection ⟨["c"], none, none, []⟩]

/-- The mixed steps lead to what they give. A version and globs can change places, and so can a
fraction for each category. -/
theorem mixed_steps_set :
    (DriftConfig.ofSteps ⟨"p"⟩ mixedSteps).allowlist = ["a*", "b", "c"] ∧
    (DriftConfig.ofSteps ⟨"p"⟩ mixedSteps).baselineOverride = some "1.0.0" ∧
    (DriftConfig.ofSteps ⟨"p"⟩ mixedSteps).staleVersions = ["0.8", "0.9"] ∧
    (DriftConfig.ofSteps ⟨"p"⟩ mixedSteps).layout.manifest = ⟨"/build/pom.xml"⟩ ∧
    (DriftStep.allowlist ["b"]).Apart (.baselineOverride (some "2.0.0")) ∧
    DriftConfig.ofSteps ⟨"p"⟩ (mixedSteps ++ [.allowlist ["b"], .baselineOverride (some "2.0.0")]) =
      DriftConfig.ofSteps ⟨"p"⟩
        (mixedSteps ++ [.baselineOverride (some "2.0.0"), .allowlist ["b"]]) ∧
    (RegressionStep.thresholds (some 0.2) none).Apart (.fileSection ⟨none, some 0.3⟩) ∧
    RegressionConfig.ofSteps ⟨"a"⟩ ⟨"b"⟩
        [.thresholds (some 0.2) none, .fileSection ⟨none, some 0.3⟩] =
      RegressionConfig.ofSteps ⟨"a"⟩ ⟨"b"⟩
        [.fileSection ⟨none, some 0.3⟩, .thresholds (some 0.2) none] := by
  have set := settings_of_steps.1 ⟨"p"⟩ mixedSteps
  have manifest : lastGiven DriftStep.manifest? mixedSteps = some ⟨"/build/pom.xml"⟩ := rfl
  have apart : (DriftStep.allowlist ["b"]).Apart (.baselineOverride (some "2.0.0")) := by
    rintro (_ | _ | _ | _) ⟨first, second⟩
    · exact second rfl
    · exact first rfl
    · exact first rfl
    · exact first rfl
  have apart' : (RegressionStep.thresholds (some 0.2) none).Apart
      (.fileSection ⟨none, some 0.3⟩) := by
    rintro (_ | _) ⟨first, second⟩
    · exact second rfl
    · exact first rfl
  refine ⟨set.allowlist, set.baselineOverride.trans ?_, set.staleVersions,
    (set.manifest _ manifest).trans rfl, apart, ?_, apart', ?_⟩
  · decide +kernel
  · exact settings_of_steps.2.2.1 _ _ _ _ _ apart
  · exact settings_of_steps.2.2.2 _ [] _ _ _ apart'

end QualityGates
