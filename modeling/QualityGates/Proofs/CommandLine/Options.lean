import QualityGates.Proofs.CommandLine.Layers

/-!
# Arguments with one more value

Arguments that do not give an option are read alike with a value for it: what they come to differs
in this value only. The value may be given in front of them, or between them wherever it is
accepted.
-/

namespace QualityGates.CommandLine

/-! ## What is given -/

namespace Matches

variable {m m' : Matches} {name value : String}

/-- What is given with a value for an option, besides what is given without it. -/
structure Sets (name value : String) (m m' : Matches) : Prop where
  flags : m'.flags = m.flags
  plain : m'.plain = m.plain
  given : m'.value? name = some value
  others : ∀ other, other ≠ name → m'.value? other = m.value? other

/-- A value behind the others is the value of its option, unless there is one already. -/
theorem value?_append (m : Matches) (name value other : String) :
    ({ m with values := m.values ++ [(name, value)] } : Matches).value? other =
      (m.value? other).or (if other = name then some value else none) := by
  unfold value?
  rw [List.lookup_append, lookup_cons_ite, List.lookup_nil]

/-- A value behind the others sets its option. -/
theorem sets_append (new : m.value? name = none) :
    Sets name value m { m with values := m.values ++ [(name, value)] } := by
  refine ⟨rfl, rfl, ?_, fun other ne => ?_⟩
  · rw [value?_append, new, if_pos rfl]
    rfl
  · rw [value?_append, if_neg ne, Option.or_none]

/-- The flags are the same. -/
theorem Sets.flag (sets : Sets name value m m') (other : String) :
    m'.flag other = m.flag other := by
  unfold Matches.flag
  rw [sets.flags]

end Matches

/-- Whether reading came to the end of the arguments. -/
def Reading.isFinished : Reading → Bool
  | .finished _ => true
  | _ => false

/-- What reading comes to without and with a value for an option. -/
inductive Reading.Sets (name value : String) : Reading → Reading → Prop where
  | finished {m m' : Matches} (sets : m.Sets name value m') :
    Sets name value (.finished m) (.finished m')
  | decided {reading : Reading} (unfinished : reading.isFinished = false) :
    Sets name value reading reading

namespace Grammar

variable {g : Grammar} {m m' r : Matches} {arg name value : String} {kind : OptionKind}
  {rest args : List String} {reading : Reading}

/-- No argument has the form of an option. -/
def Lacks (name : String) (args : List String) : Prop :=
  ∀ arg ∈ args, ∀ value, Argument.ofText arg ≠ .long name value

/-- Whether a value of another option is taken is decided alike. -/
theorem takeValue_sets {other : String} (kind : OptionKind) (text : String)
    (sets : m.Sets name value m') (ne : other ≠ name) :
    (takeValue kind m other text = none ∧ takeValue kind m' other text = none) ∨
      ∃ r r', takeValue kind m other text = some r ∧ takeValue kind m' other text = some r' ∧
        r.Sets name value r' := by
  unfold takeValue
  rw [sets.others other ne]
  by_cases able : (kind.accepts text && (m.value? other).isNone) = true
  · rw [if_pos able, if_pos able]
    refine .inr ⟨_, _, rfl, rfl, sets.flags, sets.plain, ?_, fun third neThird => ?_⟩
    · rw [Matches.value?_append, sets.given]
      rfl
    · rw [Matches.value?_append, Matches.value?_append, sets.others third neThird]
  · rw [if_neg able, if_neg able]
    exact .inl ⟨rfl, rfl⟩

/-- Arguments that do not give an option are read alike with a value for it. -/
theorem read_sets (lacks : Lacks name args) (sets : m.Sets name value m') :
    (g.read m args).Sets name value (g.read m' args) := by
  fun_induction g.read m args generalizing m' with
  | case1 m =>
    rw [read]
    exact .finished sets
  | case2 m arg rest form few =>
    rw [read, form]
    dsimp only
    rw [sets.plain, if_pos few]
    exact .finished ⟨sets.flags, rfl, sets.given, sets.others⟩
  | case8 m arg rest form unknown room ih =>
    rw [read, form]
    dsimp only
    rw [if_neg unknown, sets.plain, if_pos room]
    exact ih (List.forall_mem_cons.mp lacks).2 ⟨sets.flags, rfl, sets.given, sets.others⟩
  | case16 m arg other rest known new form ih =>
    rw [read_flag form known (by rw [sets.flag]; exact Bool.not_eq_true _ ▸ new)]
    exact ih (List.forall_mem_cons.mp lacks).2
      ⟨congrArg (· ++ [other]) sets.flags, sets.plain, sets.given, sets.others⟩
  | case17 m arg other kind text rest noFlag known r taken form ih =>
    rw [Lacks, List.forall_mem_cons] at lacks
    have ne : other ≠ name := fun same => lacks.1 (some text) (same ▸ form)
    rcases takeValue_sets kind text sets ne with ⟨refused, _⟩ | ⟨_, r', taken₁, taken', sets'⟩
    · rw [taken] at refused
      cases refused
    · cases taken.symm.trans taken₁
      rw [read_attached form known taken']
      exact ih lacks.2 sets'
  | case20 m arg other kind text rest noFlag known plain r taken form ih =>
    rw [Lacks, List.forall_mem_cons, List.forall_mem_cons] at lacks
    have ne : other ≠ name := fun same => lacks.1 none (same ▸ form)
    rcases takeValue_sets kind text sets ne with ⟨refused, _⟩ | ⟨_, r', taken₁, taken', sets'⟩
    · rw [taken] at refused
      cases refused
    · cases taken.symm.trans taken₁
      rw [read_separate form known taken' plain]
      exact ih lacks.2.2 sets'
  | case18 m arg other kind text rest noFlag known refused form =>
    have ne : other ≠ name := fun same => lacks arg List.mem_cons_self (some text) (same ▸ form)
    rcases takeValue_sets kind text sets ne with ⟨_, refused'⟩ | ⟨_, _, taken, _⟩
    · rw [read, form]
      simp only [known, refused']
      exact .decided rfl
    · rw [refused] at taken
      cases taken
  | case21 m arg other kind text rest noFlag known plain refused form =>
    have ne : other ≠ name := fun same => lacks arg List.mem_cons_self none (same ▸ form)
    rcases takeValue_sets kind text sets ne with ⟨_, refused'⟩ | ⟨_, _, taken, _⟩
    · rw [read, form]
      simp only [known, refused', plain]
      exact .decided rfl
    · rw [refused] at taken
      cases taken
  | _ =>
    -- Nothing that decides here depends on the values that are given.
    rw [read]
    simp_all only [sets.plain, sets.flag]
    exact .decided rfl

/-! ## Where the value is given -/

/-- The arguments that give a value for an option. -/
inductive GivesValue (name value : String) : List String → Prop where
  | attached {arg : String} (form : Argument.ofText arg = .long name (some value)) :
    GivesValue name value [arg]
  | separate {arg : String} (form : Argument.ofText arg = .long name none)
    (plain : Argument.ofText value = .plain) : GivesValue name value [arg, value]

namespace GivesValue

variable {extra : List String}

/-- The option comes first. -/
theorem eq_cons (gives : GivesValue name value extra) :
    ∃ first others attached, extra = first :: others ∧
      Argument.ofText first = .long name attached := by
  cases gives with
  | attached form => exact ⟨_, _, _, rfl, form⟩
  | separate form plain => exact ⟨_, _, _, rfl, form⟩

/-- The value is taken, or refused when there is one already. -/
theorem read_append (gives : GivesValue name value extra)
    (known : g.options.lookup name = some .text) :
    g.read m (extra ++ rest) =
      (takeValue .text m name value).elim .usageError fun m' => g.read m' rest := by
  cases gives with
  | attached form =>
    show g.read m (_ :: rest) = _
    rw [read, form]
    dsimp only
    rw [known]
    dsimp only
    cases takeValue .text m name value <;> rfl
  | separate form plain =>
    show g.read m (_ :: value :: rest) = _
    rw [read, form]
    dsimp only
    rw [known]
    dsimp only
    rw [if_pos plain]
    cases takeValue .text m name value <;> rfl

/-- An option that is not known is refused. -/
theorem read_unknown (gives : GivesValue name value extra) (unknown : g.options.lookup name = none)
    (help : name ≠ "help") (version : name ≠ "version") :
    g.read m (extra ++ rest) = .usageError := by
  cases gives with
  | attached form =>
    show g.read m (_ :: rest) = _
    rw [read, form]
    dsimp only
    rw [unknown]
  | separate form plain => exact Grammar.read_unknown form unknown help version

end GivesValue

/-- Accepted arguments with an option among them: either it is left to a subcommand, or the option
is reached. What stands in front of it is read alike whatever follows. -/
theorem Accepts.reach {first : String} {attached : Option String} {front others : List String}
    (accepts : Accepts g m (front ++ first :: others) reading)
    (option : Argument.ofText first = .long name attached) :
    (∃ sub behind, reading = .subcommand sub (behind ++ first :: others) ∧
      ∀ back, g.read m (front ++ back) = .subcommand sub (behind ++ back)) ∨
    ∃ m₁, Accepts g m₁ (first :: others) reading ∧
      ∀ back, g.read m (front ++ back) = g.read m₁ back := by
  generalize split : front ++ first :: others = args at accepts
  induction accepts generalizing front with
  | finished m => exact absurd split (List.append_ne_nil_of_right_ne_nil _ (List.cons_ne_nil _ _))
  | separator form alone =>
    rcases List.append_eq_cons_iff.mp split with ⟨rfl, same⟩ | ⟨behind, rfl, nothing⟩
    · exact .inr ⟨_, same ▸ .separator form alone, fun _ => rfl⟩
    · exact absurd nothing.symm (List.append_ne_nil_of_right_ne_nil _ (List.cons_ne_nil _ _))
  | subcommand form known =>
    rcases List.append_eq_cons_iff.mp split with ⟨rfl, same⟩ | ⟨behind, rfl, rfl⟩
    · exact .inr ⟨_, same ▸ .subcommand form known, fun _ => rfl⟩
    · exact .inl ⟨_, behind, rfl, fun _ => read_subcommand form known⟩
  | flag form known new more ih =>
    rcases List.append_eq_cons_iff.mp split with ⟨rfl, same⟩ | ⟨behind, rfl, rfl⟩
    · exact .inr ⟨_, same ▸ .flag form known new more, fun _ => rfl⟩
    · simp only [List.cons_append, read_flag form known new]
      exact ih rfl
  | attached form known taken more ih =>
    rcases List.append_eq_cons_iff.mp split with ⟨rfl, same⟩ | ⟨behind, rfl, rfl⟩
    · exact .inr ⟨_, same ▸ .attached form known taken more, fun _ => rfl⟩
    · simp only [List.cons_append, read_attached form known taken]
      exact ih rfl
  | separate form known taken plain more ih =>
    rcases List.append_eq_cons_iff.mp split with ⟨rfl, same⟩ | ⟨behind, rfl, rest⟩
    · exact .inr ⟨_, same ▸ .separate form known taken plain more, fun _ => rfl⟩
    · rcases List.append_eq_cons_iff.mp rest.symm with ⟨rfl, same⟩ | ⟨behind, rfl, rfl⟩
      · -- The value of an option is plain, which no option is.
        cases same
        rw [plain] at option
        cases option
      · simp only [List.cons_append, read_separate form known taken plain]
        exact ih rfl

/-- A value of another option leaves the values of this one as they are. -/
theorem value?_of_takeValue {other : String} (taken : takeValue kind m other value = some m')
    (ne : other ≠ name) : m'.value? name = m.value? name := by
  rw [(takeValue_eq_some_iff.mp taken).2.2, Matches.value?_append, if_neg ne.symm, Option.or_none]

/-- Arguments that do not give an option leave its value as it was. -/
theorem Accepts.value?_of_lacks (accepts : Accepts g m args (.finished r))
    (lacks : Lacks name args) : r.value? name = m.value? name := by
  generalize finished : Reading.finished r = reading at accepts
  induction accepts with
  | finished m => exact congrArg (·.value? name) (Reading.finished.inj finished)
  | separator form alone => exact congrArg (·.value? name) (Reading.finished.inj finished)
  | subcommand form known => cases finished
  | flag form known new _ ih => exact ih (List.forall_mem_cons.mp lacks).2 finished
  | attached form known taken _ ih =>
    rw [Lacks, List.forall_mem_cons] at lacks
    exact (ih lacks.2 finished).trans
      (value?_of_takeValue taken fun same => lacks.1 _ (same ▸ form))
  | separate form known taken plain _ ih =>
    rw [Lacks, List.forall_mem_cons, List.forall_mem_cons] at lacks
    exact (ih lacks.2.2 finished).trans
      (value?_of_takeValue taken fun same => lacks.1 _ (same ▸ form))

/-- In front of arguments that do not give an option, a value for it changes nothing else. -/
theorem read_given {extra : List String} (gives : GivesValue name value extra)
    (known : g.options.lookup name = some .text) (lacks : Lacks name args) :
    (g.read {} args).Sets name value (g.read {} (extra ++ args)) := by
  have taken : takeValue .text {} name value = some { values := [(name, value)] } :=
    takeValue_eq_some_iff.mpr ⟨rfl, rfl, rfl⟩
  rw [gives.read_append known, taken]
  exact read_sets lacks (Matches.sets_append rfl)

/-- Where a value is accepted between arguments that do not give its option, they come to the same
without it, apart from the value. -/
theorem Accepts.without {extra front back : List String} (gives : GivesValue name value extra)
    (known : g.options.lookup name = some .text) (lacks : Lacks name back)
    (accepts : Accepts g m (front ++ (extra ++ back)) (.finished r)) :
    ∃ r₀ : Matches, g.read m (front ++ back) = .finished r₀ ∧ r₀.Sets name value r := by
  obtain ⟨first, others, attached, rfl, option⟩ := gives.eq_cons
  rcases accepts.reach option with ⟨sub, behind, passed, _⟩ | ⟨m₁, reached, same⟩
  · cases passed
  · have finished : g.read m₁ (first :: others ++ back) = .finished r := reached.read_eq
    rw [gives.read_append known] at finished
    cases taken : takeValue .text m₁ name value with
    | none =>
      rw [taken] at finished
      cases finished
    | some m₂ =>
      rw [taken] at finished
      obtain ⟨_, new, rfl⟩ := takeValue_eq_some_iff.mp taken
      have sets := @read_sets g _ _ name value back lacks (Matches.sets_append new)
      rw [Option.elim_some] at finished
      rw [finished] at sets
      rw [same]
      generalize g.read m₁ back = reading at sets ⊢
      cases sets with
      | finished sets => exact ⟨_, rfl, sets⟩
      | decided unfinished => cases unfinished

/-- An option that is only known to a subcommand is accepted behind the name of it. -/
theorem Accepts.behind_name {extra front back : List String} {sub : String}
    (gives : GivesValue name value extra) (unknown : g.options.lookup name = none)
    (help : name ≠ "help") (version : name ≠ "version")
    (accepts : Accepts g m (front ++ (extra ++ back)) (.subcommand sub rest)) :
    ∃ behind, rest = behind ++ (extra ++ back) ∧
      g.read m (front ++ back) = .subcommand sub (behind ++ back) := by
  obtain ⟨first, others, attached, rfl, option⟩ := gives.eq_cons
  rcases accepts.reach option with ⟨sub', behind, passed, same⟩ | ⟨m₁, reached, _⟩
  · cases passed
    exact ⟨behind, rfl, same back⟩
  · have refused : g.read m₁ (first :: others ++ back) = .usageError :=
      gives.read_unknown unknown help version
    have passed : g.read m₁ (first :: others ++ back) = .subcommand sub rest := reached.read_eq
    cases refused.symm.trans passed

end Grammar
end QualityGates.CommandLine
