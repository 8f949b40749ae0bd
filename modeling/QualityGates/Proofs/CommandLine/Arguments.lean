import QualityGates.CommandLine.Invocation

/-!
# Arguments with one more flag

`Accepts` says how arguments without plain ones are read when nothing is wrong with them, one rule
for each form that an argument may have. A flag that is put between arguments is refused, or goes to
the subcommand, or only adds itself to what the others give.
-/

namespace QualityGates.CommandLine

/-! ## What is given -/

namespace Matches

variable {m m' : Matches} {name : String}

/-- A flag that is added is given. -/
theorem flag_append_self (m : Matches) (name : String) :
    ({ m with flags := m.flags ++ [name] } : Matches).flag name = true := by
  unfold flag
  rw [List.contains_append, List.contains_cons, beq_self_eq_true, Bool.true_or, Bool.or_true]

/-- Adding a flag leaves the other ones as they are. -/
theorem flag_append_of_ne {other : String} (ne : other ≠ name) :
    ({ m with flags := m.flags ++ [name] } : Matches).flag other = m.flag other := by
  unfold flag
  rw [List.contains_append, List.contains_cons, beq_eq_false_iff_ne.mpr ne, List.contains_nil,
    Bool.or_false, Bool.or_false]

/-- Whether something is given with a flag added to it. -/
structure Adds (name : String) (m m' : Matches) : Prop where
  values : m'.values = m.values
  plain : m'.plain = m.plain
  flagged : m'.flag name = true
  flags : ∀ other, other ≠ name → m'.flag other = m.flag other

/-- A flag behind the others is added to them. -/
theorem adds_append (name : String) (m : Matches) :
    Adds name m { m with flags := m.flags ++ [name] } :=
  ⟨rfl, rfl, flag_append_self m name, fun _ ne => flag_append_of_ne ne⟩

namespace Adds

/-- The values of options are the same. -/
theorem value? (adds : Adds name m m') (other : String) : m'.value? other = m.value? other := by
  unfold Matches.value?
  rw [adds.values]

/-- Another flag may be added on both sides. -/
theorem append (adds : Adds name m m') {other : String} (ne : other ≠ name) :
    Adds name { m with flags := m.flags ++ [other] } { m' with flags := m'.flags ++ [other] } := by
  refine ⟨adds.values, adds.plain, ?_, fun third neThird => ?_⟩
  · rw [flag_append_of_ne ne.symm, adds.flagged]
  · by_cases same : third = other
    · rw [same, flag_append_self, flag_append_self]
    · rw [flag_append_of_ne same, flag_append_of_ne same, adds.flags third neThird]

end Adds
end Matches

/-- An argument without a dash in front is plain. -/
theorem Argument.ofText_eq_plain {s : String} (undashed : ∀ rest, s.toList ≠ '-' :: rest) :
    ofText s = .plain := by
  unfold ofText
  split
  · rename_i dashes
    exact absurd dashes (undashed _)
  · rename_i dashes
    exact absurd dashes (undashed _)
  · rename_i dashes
    exact absurd dashes (undashed _)
  · rfl

/-- Whether reading came to the end of the arguments or to a subcommand. -/
def Reading.isAccepted : Reading → Bool
  | .finished _ | .subcommand _ _ => true
  | _ => false

namespace Grammar

open Matches (Adds)

variable {g : Grammar} {m m' r : Matches} {arg name value : String} {kind : OptionKind}
  {rest args : List String} {reading : Reading}

/-- A value is taken when it is accepted and the first one of its option. -/
theorem takeValue_eq_some_iff : takeValue kind m name value = some m' ↔
    kind.accepts value = true ∧ m.value? name = none ∧
      m' = { m with values := m.values ++ [(name, value)] } := by
  unfold takeValue
  by_cases able : (kind.accepts value && (m.value? name).isNone) = true
  · rw [if_pos able, Option.some_inj]
    rw [Bool.and_eq_true, Option.isNone_iff_eq_none] at able
    exact ⟨fun same => ⟨able.1, able.2, same.symm⟩, fun taken => taken.2.2.symm⟩
  · rw [if_neg able]
    refine ⟨fun taken => (nomatch taken), fun taken => absurd ?_ able⟩
    rw [taken.1, taken.2.1]
    rfl

/-- An option that takes a value is no flag. -/
theorem ne_flag_of_takeValue (taken : takeValue kind m name value = some m') : kind ≠ .flag := by
  rintro rfl
  exact Bool.false_ne_true (takeValue_eq_some_iff.mp taken).1

/-- A value that is taken does not change the flags. -/
theorem flag_of_takeValue (taken : takeValue kind m name value = some m') (other : String) :
    m'.flag other = m.flag other := by
  rw [(takeValue_eq_some_iff.mp taken).2.2]
  rfl

/-- A value that is taken is also taken with a flag added. -/
theorem takeValue_of_adds {flag : String} {a : Matches} (adds : Adds flag m a)
    (taken : takeValue kind m name value = some m') :
    ∃ a', takeValue kind a name value = some a' ∧ Adds flag m' a' := by
  obtain ⟨accepted, new, rfl⟩ := takeValue_eq_some_iff.mp taken
  refine ⟨{ a with values := a.values ++ [(name, value)] },
    takeValue_eq_some_iff.mpr ⟨accepted, (adds.value? name).trans new, rfl⟩, ?_⟩
  exact ⟨congrArg (· ++ [(name, value)]) adds.values, adds.plain, adds.flagged, adds.flags⟩

/-! ## Reading one argument -/

/-- Behind a separator every argument is plain. -/
theorem read_separator (form : Argument.ofText arg = .separator)
    (room : m.plain.length + rest.length ≤ g.plain) :
    g.read m (arg :: rest) = .finished { m with plain := m.plain ++ rest } := by
  rw [read, form]
  exact if_pos room

/-- A separator may stand at the end of the arguments. -/
theorem read_separator_end (form : Argument.ofText arg = .separator) (alone : m.plain = []) :
    g.read m [arg] = .finished m := by
  rw [read_separator form (by rw [alone]; exact Nat.zero_le _), List.append_nil]

/-- Nothing may stand behind a separator where nothing may be plain. -/
theorem read_separator_cons (noPlain : g.plain = 0) (form : Argument.ofText arg = .separator) :
    g.read m (arg :: value :: rest) = .usageError := by
  rw [read, form]
  dsimp only
  rw [noPlain, List.length_cons, ← Nat.add_assoc, if_neg (Nat.not_succ_le_zero _)]

/-- The name of a subcommand ends reading. -/
theorem read_subcommand (form : Argument.ofText arg = .plain)
    (known : g.subcommands.contains arg = true) :
    g.read m (arg :: rest) = .subcommand arg rest := by
  rw [read, form]
  exact if_pos known

/-- A plain argument is added where there is room for it. -/
theorem read_plain (form : Argument.ofText arg = .plain)
    (other : g.subcommands.contains arg = false)
    (room : m.plain.length < g.plain) :
    g.read m (arg :: rest) = g.read { m with plain := m.plain ++ [arg] } rest := by
  rw [read, form]
  dsimp only
  rw [other, if_neg Bool.false_ne_true, if_pos room]

/-- A flag is added. -/
theorem read_flag (form : Argument.ofText arg = .long name none)
    (known : g.options.lookup name = some .flag) (new : m.flag name = false) :
    g.read m (arg :: rest) = g.read { m with flags := m.flags ++ [name] } rest := by
  rw [read, form]
  dsimp only
  rw [known]
  dsimp only
  rw [if_neg (by rw [new]; exact Bool.false_ne_true)]

/-- A value may be a part of the argument with its option. -/
theorem read_attached (form : Argument.ofText arg = .long name (some value))
    (known : g.options.lookup name = some kind) (taken : takeValue kind m name value = some m') :
    g.read m (arg :: rest) = g.read m' rest := by
  have ne := ne_flag_of_takeValue taken
  rw [read, form]
  dsimp only
  rw [known]
  cases kind with
  | flag => exact absurd rfl ne
  | text | float | count => dsimp only; rw [taken]

/-- A value may be the next argument. -/
theorem read_separate (form : Argument.ofText arg = .long name none)
    (known : g.options.lookup name = some kind) (taken : takeValue kind m name value = some m')
    (plain : Argument.ofText value = .plain) :
    g.read m (arg :: value :: rest) = g.read m' rest := by
  have ne := ne_flag_of_takeValue taken
  rw [read, form]
  dsimp only
  rw [known]
  cases kind with
  | flag => exact absurd rfl ne
  | text | float | count => dsimp only; rw [if_pos plain, taken]

/-- An argument that is not plain is no value. -/
theorem read_not_plain (form : Argument.ofText arg = .long name none)
    (known : g.options.lookup name = some kind) (ne : kind ≠ .flag)
    (dashed : Argument.ofText value ≠ .plain) :
    g.read m (arg :: value :: rest) = .usageError := by
  rw [read, form]
  dsimp only
  rw [known]
  cases kind with
  | flag => exact absurd rfl ne
  | text | float | count => exact if_neg dashed

/-- A name that is neither an option nor a request is refused. -/
theorem read_unknown (form : Argument.ofText arg = .long name none)
    (unknown : g.options.lookup name = none) (help : name ≠ "help") (version : name ≠ "version") :
    g.read m (arg :: rest) = .usageError := by
  rw [read, form]
  dsimp only
  rw [unknown]
  dsimp only
  rw [if_neg help, if_neg fun asked => version asked.1]

/-! ## Accepted arguments -/

/-- How arguments are accepted, up to their end or up to a subcommand. -/
inductive Accepts (g : Grammar) : Matches → List String → Reading → Prop where
  | finished (m : Matches) : Accepts g m [] (.finished m)
  | separator {m : Matches} {arg : String} (form : Argument.ofText arg = .separator)
    (alone : m.plain = []) : Accepts g m [arg] (.finished m)
  | subcommand {m : Matches} {arg : String} {rest : List String}
    (form : Argument.ofText arg = .plain) (known : g.subcommands.contains arg = true) :
    Accepts g m (arg :: rest) (.subcommand arg rest)
  | flag {m : Matches} {arg name : String} {rest : List String} {reading : Reading}
    (form : Argument.ofText arg = .long name none) (known : g.options.lookup name = some .flag)
    (new : m.flag name = false)
    (more : Accepts g { m with flags := m.flags ++ [name] } rest reading) :
    Accepts g m (arg :: rest) reading
  | attached {m m' : Matches} {arg name value : String} {kind : OptionKind} {rest : List String}
    {reading : Reading} (form : Argument.ofText arg = .long name (some value))
    (known : g.options.lookup name = some kind) (taken : takeValue kind m name value = some m')
    (more : Accepts g m' rest reading) : Accepts g m (arg :: rest) reading
  | separate {m m' : Matches} {arg name value : String} {kind : OptionKind} {rest : List String}
    {reading : Reading} (form : Argument.ofText arg = .long name none)
    (known : g.options.lookup name = some kind) (taken : takeValue kind m name value = some m')
    (plain : Argument.ofText value = .plain) (more : Accepts g m' rest reading) :
    Accepts g m (arg :: value :: rest) reading

/-- What is accepted is what is read. -/
theorem Accepts.read_eq (accepts : Accepts g m args reading) : g.read m args = reading := by
  induction accepts with
  | finished m => rw [read]
  | separator form alone => exact read_separator_end form alone
  | subcommand form known => exact read_subcommand form known
  | flag form known new _ ih => rw [read_flag form known new, ih]
  | attached form known taken _ ih => rw [read_attached form known taken, ih]
  | separate form known taken plain _ ih => rw [read_separate form known taken plain, ih]

/-- What is read without a mistake is accepted. -/
theorem accepts_read (noPlain : g.plain = 0) :
    (g.read m args).isAccepted = true → Accepts g m args (g.read m args) := by
  fun_induction g.read m args with
  | case1 m => exact fun _ => .finished m
  | case2 m arg rest form few =>
    intro _
    have counted : m.plain.length + rest.length = 0 := Nat.le_zero.mp (noPlain ▸ few)
    obtain ⟨alone, rfl⟩ : m.plain = [] ∧ rest = [] := by
      simpa only [Nat.add_eq_zero_iff, List.length_eq_zero_iff] using counted
    rw [List.append_nil]
    exact .separator form alone
  | case7 m arg rest form known => exact fun _ => .subcommand form known
  | case8 m arg rest form unknown room => exact absurd room (noPlain ▸ Nat.not_lt_zero _)
  | case16 m arg name rest known new form ih =>
    exact fun ok => .flag form known (Bool.not_eq_true _ ▸ new) (ih ok)
  | case17 m arg name kind value rest _ known m' taken form ih =>
    exact fun ok => .attached form known taken (ih ok)
  | case20 m arg name kind value rest _ known plain m' taken form ih =>
    exact fun ok => .separate form known taken plain (ih ok)
  | _ => exact fun ok => absurd ok Bool.false_ne_true

/-- What is finished is accepted. -/
theorem accepts_of_read (noPlain : g.plain = 0) (read : g.read m args = reading)
    (ok : reading.isAccepted = true) : Accepts g m args reading := by
  subst read
  exact accepts_read noPlain ok

/-! ## One more flag -/

/-- A flag that is given stays given. -/
theorem Accepts.flag_of_flag (accepts : Accepts g m args (.finished r)) {flag : String}
    (given : m.flag flag = true) : r.flag flag = true := by
  generalize finished : Reading.finished r = reading at accepts
  induction accepts with
  | finished m => exact (Reading.finished.inj finished) ▸ given
  | separator form alone => exact (Reading.finished.inj finished) ▸ given
  | subcommand form known => cases finished
  | @flag m arg name rest reading form known new _ ih =>
    refine ih ?_ finished
    by_cases same : flag = name
    · rw [same, Matches.flag_append_self]
    · rw [Matches.flag_append_of_ne same, given]
  | attached form known taken _ ih => exact ih ((flag_of_takeValue taken flag).trans given) finished
  | separate form known taken plain _ ih =>
    exact ih ((flag_of_takeValue taken flag).trans given) finished

/-- With a flag added before, arguments that do not give it are read alike. -/
theorem Accepts.of_adds {flag : String} {a : Matches} (accepts : Accepts g m args (.finished r))
    (unset : r.flag flag = false) (adds : Adds flag m a) :
    ∃ b, Accepts g a args (.finished b) ∧ Adds flag r b := by
  generalize finished : Reading.finished r = reading at accepts
  induction accepts generalizing a with
  | finished m =>
    cases finished
    exact ⟨a, .finished a, adds⟩
  | separator form alone =>
    cases finished
    exact ⟨a, .separator form (adds.plain.trans alone), adds⟩
  | subcommand form known => cases finished
  | @flag m arg name rest reading form known new more ih =>
    have ne : name ≠ flag := by
      rintro rfl
      subst finished
      rw [more.flag_of_flag (Matches.flag_append_self m name)] at unset
      cases unset
    obtain ⟨b, read, added⟩ := ih (adds.append ne) finished
    exact ⟨b, .flag form known ((adds.flags name ne).trans new) read, added⟩
  | attached form known taken _ ih =>
    obtain ⟨a', takenToo, addsToo⟩ := takeValue_of_adds adds taken
    obtain ⟨b, read, added⟩ := ih addsToo finished
    exact ⟨b, .attached form known takenToo read, added⟩
  | separate form known taken plain _ ih =>
    obtain ⟨a', takenToo, addsToo⟩ := takeValue_of_adds adds taken
    obtain ⟨b, read, added⟩ := ih addsToo finished
    exact ⟨b, .separate form known takenToo plain read, added⟩

/-- What an argument that is put between others comes to when it has the form of an option: it goes
to the subcommand, or is the next one to be read, or is refused. -/
theorem Accepts.insert {extra flag : String} {front back : List String} (noPlain : g.plain = 0)
    (option : Argument.ofText extra = .long flag none)
    (accepts : Accepts g m (front ++ back) reading) :
    (∃ name behind, reading = .subcommand name (behind ++ back) ∧
      g.read m (front ++ extra :: back) = .subcommand name (behind ++ extra :: back)) ∨
    (∃ m₁, Accepts g m₁ back reading ∧
      g.read m (front ++ extra :: back) = g.read m₁ (extra :: back)) ∨
    g.read m (front ++ extra :: back) = .usageError := by
  generalize split : front ++ back = args at accepts
  induction accepts generalizing front with
  | finished m =>
    obtain ⟨rfl, rfl⟩ := List.append_eq_nil_iff.mp split
    exact .inr (.inl ⟨m, .finished m, rfl⟩)
  | separator form alone =>
    rcases List.append_eq_cons_iff.mp split with ⟨rfl, rfl⟩ | ⟨behind, rfl, others⟩
    · exact .inr (.inl ⟨_, .separator form alone, rfl⟩)
    · obtain ⟨rfl, rfl⟩ := List.append_eq_nil_iff.mp others.symm
      exact .inr (.inr (read_separator_cons noPlain form))
  | subcommand form known =>
    rcases List.append_eq_cons_iff.mp split with ⟨rfl, rfl⟩ | ⟨behind, rfl, rfl⟩
    · exact .inr (.inl ⟨_, .subcommand form known, rfl⟩)
    · exact .inl ⟨_, behind, rfl, read_subcommand form known⟩
  | flag form known new more ih =>
    rcases List.append_eq_cons_iff.mp split with ⟨rfl, rfl⟩ | ⟨behind, rfl, rfl⟩
    · exact .inr (.inl ⟨_, .flag form known new more, rfl⟩)
    · rw [List.cons_append, read_flag form known new]
      exact ih rfl
  | attached form known taken more ih =>
    rcases List.append_eq_cons_iff.mp split with ⟨rfl, rfl⟩ | ⟨behind, rfl, rfl⟩
    · exact .inr (.inl ⟨_, .attached form known taken more, rfl⟩)
    · rw [List.cons_append, read_attached form known taken]
      exact ih rfl
  | separate form known taken plain more ih =>
    rcases List.append_eq_cons_iff.mp split with ⟨rfl, rfl⟩ | ⟨behind, rfl, others⟩
    · exact .inr (.inl ⟨_, .separate form known taken plain more, rfl⟩)
    · rcases List.append_eq_cons_iff.mp others.symm with ⟨rfl, rfl⟩ | ⟨behind, rfl, rfl⟩
      · refine .inr (.inr (read_not_plain form known (ne_flag_of_takeValue taken) ?_))
        rw [option]
        exact Argument.noConfusion
      · rw [List.cons_append, List.cons_append, read_separate form known taken plain]
        exact ih rfl

/-- A flag may be put in front of accepted arguments that do not give it. -/
theorem Accepts.read_flag_cons {extra flag : String} (accepts : Accepts g m args (.finished r))
    (option : Argument.ofText extra = .long flag none) (known : g.options.lookup flag = some .flag)
    (unset : r.flag flag = false) :
    ∃ b, g.read m (extra :: args) = .finished b ∧ Adds flag r b := by
  have new : m.flag flag = false :=
    Bool.eq_false_iff.mpr fun given => by rw [accepts.flag_of_flag given] at unset; cases unset
  obtain ⟨b, acceptsToo, adds⟩ := accepts.of_adds unset (Matches.adds_append flag m)
  exact ⟨b, (read_flag option known new).trans acceptsToo.read_eq, adds⟩

/-- A flag that is put between accepted arguments is refused or added, if they do not give it. -/
theorem Accepts.read_insert_flag {extra flag : String} {front back : List String}
    (noPlain : g.plain = 0) (accepts : Accepts g m (front ++ back) (.finished r))
    (option : Argument.ofText extra = .long flag none) (known : g.options.lookup flag = some .flag)
    (unset : r.flag flag = false) :
    (∃ b, g.read m (front ++ extra :: back) = .finished b ∧ Adds flag r b) ∨
      g.read m (front ++ extra :: back) = .usageError := by
  rcases accepts.insert noPlain option with ⟨name, behind, other, _⟩ | ⟨m₁, reached, same⟩ | refused
  · cases other
  · rw [same]
    exact .inl (reached.read_flag_cons option known unset)
  · exact .inr refused

/-- An option that is not known in front of the subcommand goes to the subcommand or is refused. -/
theorem Accepts.read_insert_unknown {extra flag sub : String} {front back : List String}
    (noPlain : g.plain = 0) (accepts : Accepts g m (front ++ back) (.subcommand sub rest))
    (option : Argument.ofText extra = .long flag none) (unknown : g.options.lookup flag = none)
    (help : flag ≠ "help") (version : flag ≠ "version") :
    (∃ behind, rest = behind ++ back ∧
      g.read m (front ++ extra :: back) = .subcommand sub (behind ++ extra :: back)) ∨
      g.read m (front ++ extra :: back) = .usageError := by
  rcases accepts.insert noPlain option with ⟨name, behind, same, passed⟩ | ⟨m₁, _, same⟩ | refused
  · cases same
    exact .inl ⟨behind, rfl, passed⟩
  · exact .inr (same.trans (read_unknown option unknown help version))
  · exact .inr refused

/-- What stands behind a subcommand is not looked at. -/
theorem Accepts.behind_subcommand {sub : String}
    (accepts : Accepts g m args (.subcommand sub rest)) :
    ∃ front, args = front ++ rest ∧
      ∀ other, g.read m (front ++ other) = .subcommand sub other := by
  generalize passed : Reading.subcommand sub rest = reading at accepts
  induction accepts with
  | finished m => cases passed
  | separator form alone => cases passed
  | @subcommand m arg _ form known =>
    cases passed
    exact ⟨[sub], rfl, fun other => read_subcommand form known⟩
  | @flag m arg name rest reading form known new _ ih =>
    obtain ⟨front, rfl, same⟩ := ih passed
    exact ⟨arg :: front, rfl, fun other => (read_flag form known new).trans (same other)⟩
  | @attached m m' arg name value kind rest reading form known taken _ ih =>
    obtain ⟨front, rfl, same⟩ := ih passed
    exact ⟨arg :: front, rfl, fun other => (read_attached form known taken).trans (same other)⟩
  | @separate m m' arg name value kind rest reading form known taken plain _ ih =>
    obtain ⟨front, rfl, same⟩ := ih passed
    exact ⟨arg :: value :: front, rfl,
      fun other => (read_separate form known taken plain).trans (same other)⟩

end Grammar

/-! ## The commands for documents -/

namespace Invocation

variable (env : Environment) (args : List String)

/-- The drift gate is run with the options that its arguments give. -/
theorem ofCommand_docsDrift : ofCommand env "docs-drift" args =
    ofReading (fun m => some (.docsDrift (.ofMatches env m) (m.flag "json")))
      (driftGrammar.read {} args) := rfl

/-- Rules are listed with the options that the arguments give. -/
theorem ofCommand_listRules : ofCommand env "list-rules" args =
    ofReading (fun m => some (.listRules (.ofMatches env m) (m.flag "json")))
      (driftGrammar.read {} args) := rfl

end Invocation
end QualityGates.CommandLine
