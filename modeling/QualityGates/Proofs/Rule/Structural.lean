import QualityGates.Proofs.Rule.Written

/-!
# The rules for malformed snippets

Two rules of the drift gate do not depend on any version. They look for a fixed text around a part
that varies: the arguments between the brackets of a repository, and the blanks between an
annotation and the kind of an index. The pattern for the arguments can be cut in many ways, since
blanks may belong to either side of it, so what it finds is stated without them.
-/

namespace QualityGates.Rule

open Pattern

variable {before stretch behind : List Char} {line : String}

/-- Text between the brackets of a type that is all on one line. -/
def IsArguments (cs : List Char) : Prop :=
  cs ≠ [] ∧ ∀ c ∈ cs, c ≠ '>' ∧ c ≠ '\n'

/-- A line has a repository with a comma between two arguments, each of them up to the first closing
bracket. -/
def SeparatesArguments (line : String) : Prop :=
  ∃ before x y behind,
    line.toList = before ++ ("MemrisRepository<".toList ++ x ++ ',' :: y ++ ['>']) ++ behind ∧
      x ≠ [] ∧ '>' ∉ x ∧ y ≠ [] ∧ '>' ∉ y

/-- A line has an annotation that names the kind of an index at once. -/
def NamesIndexType (line : String) : Prop :=
  ∃ before blanks behind,
    line.toList = before ++ ("@Index(".toList ++ blanks ++ "IndexType.".toList) ++ behind ∧
      ∀ c ∈ blanks, Text.isBlank c = true

/-- What fits the pattern of arguments. -/
theorem fits_typeArguments_iff :
    typeArguments.Fits before stretch behind ↔ IsArguments stretch := by
  unfold typeArguments IsArguments
  rw [fits_plus_char_iff]
  simp only [CharSet.contains, Bool.not_eq_true', Bool.or_eq_false_iff, beq_eq_false_iff_ne]

/-- What fits the pattern of the rule for repositories. -/
theorem fits_repositoryArity_iff : repositoryArity.pattern.Fits before stretch behind ↔
    ∃ x blanks y, stretch = "MemrisRepository<".toList ++ x ++ ',' :: (blanks ++ y) ++ ['>'] ∧
      IsArguments x ∧ (∀ c ∈ blanks, Text.isBlank c = true) ∧ IsArguments y := by
  unfold repositoryArity
  simp only [fits_sequence_cons_iff, fits_sequence_nil_iff, fits_text_iff, fits_char_iff,
    fits_star_char_iff, fits_typeArguments_iff, CharSet.contains, beq_iff_eq]
  constructor
  · rintro ⟨_, _, rfl, rfl, x, _, rfl, arguments, _, _, rfl, ⟨_, rfl, rfl⟩, blanks, _, rfl, blank,
      y, _, rfl, arguments', _, _, rfl, ⟨_, rfl, rfl⟩, rfl⟩
    exact ⟨x, blanks, y, by simp, arguments, blank, arguments'⟩
  · rintro ⟨x, blanks, y, rfl, arguments, blank, arguments'⟩
    exact ⟨_, _, by simp, rfl, x, _, rfl, arguments, [','], _, rfl, ⟨',', rfl, rfl⟩, blanks, _, rfl,
      blank, y, ['>'], rfl, arguments', ['>'], [], rfl, ⟨'>', rfl, rfl⟩, rfl⟩

/-- What fits the pattern of the rule for annotations. -/
theorem fits_indexSyntax_iff : indexSyntax.pattern.Fits before stretch behind ↔
    ∃ blanks, stretch = "@Index(".toList ++ blanks ++ "IndexType.".toList ∧
      ∀ c ∈ blanks, Text.isBlank c = true := by
  unfold indexSyntax
  simp only [fits_sequence_cons_iff, fits_sequence_nil_iff, fits_text_iff, fits_star_char_iff,
    CharSet.contains]
  constructor
  · rintro ⟨_, _, rfl, rfl, blanks, _, rfl, blank, _, _, rfl, rfl, rfl⟩
    exact ⟨blanks, by simp, blank⟩
  · rintro ⟨blanks, rfl, blank⟩
    exact ⟨_, _, List.append_assoc .., rfl, blanks, _, rfl, blank, _, [], by simp, rfl, rfl⟩

/-- The rule for repositories reports the lines with a comma between two arguments. Blanks behind
the comma need not be told from the second argument: they hold no bracket either. -/
theorem repositoryArity_flags_iff (whole : '\n' ∉ line.toList) :
    repositoryArity.flags line = true ↔ SeparatesArguments line := by
  rw [flags_iff]
  simp only [fits_repositoryArity_iff]
  constructor
  · rintro ⟨before, _, behind, split, x, blanks, y, rfl, isX, blank, isY⟩
    have noBracket {cs : List Char} (arguments : IsArguments cs) : '>' ∉ cs :=
      fun member => (arguments.2 _ member).1 rfl
    have blanksOpen : '>' ∉ blanks := fun member => absurd (blank _ member) (by decide)
    refine ⟨before, x, blanks ++ y, behind, split, isX.1, noBracket isX,
      List.append_ne_nil_of_right_ne_nil _ isY.1, ?_⟩
    rw [List.mem_append, not_or]
    exact ⟨blanksOpen, noBracket isY⟩
  · rintro ⟨before, x, y, behind, split, someX, openX, someY, openY⟩
    have oneLine : ∀ {c}, c ∈ x ∨ c ∈ y → c ≠ '\n' := by
      rintro c member rfl
      exact whole (split ▸ by rcases member with member | member <;> simp [member])
    refine ⟨before, _, behind, split, x, [], y, rfl, ⟨someX, fun c member => ⟨?_, ?_⟩⟩, nofun,
      someY, fun c member => ⟨?_, ?_⟩⟩
    · exact fun same => openX (same ▸ member)
    · exact oneLine (.inl member)
    · exact fun same => openY (same ▸ member)
    · exact oneLine (.inr member)

/-- The rule for annotations reports the lines that name the kind of an index at once. -/
theorem indexSyntax_flags_iff : indexSyntax.flags line = true ↔ NamesIndexType line := by
  rw [flags_iff]
  simp only [fits_indexSyntax_iff]
  constructor
  · rintro ⟨before, _, behind, split, blanks, rfl, blank⟩
    exact ⟨before, blanks, behind, split, blank⟩
  · rintro ⟨before, blanks, behind, split, blank⟩
    exact ⟨before, _, behind, split, blanks, rfl, blank⟩

/-- Whatever the baseline and the literals are, the rules of the drift gate end with those for
repositories and for annotations, and at most the rule for stale versions comes before them; the
rules are made unless the literals are too large. Both are written. On every line the first one
reports two arguments with a comma between them, and the second one an index whose kind is named at
once. -/
theorem forDocs_structural_exact (baseline : Option Version) (literals : List String) :
    ∃ stale : Option Rule,
      forDocs baseline literals = stale.toList ++ [repositoryArity, indexSyntax] ∧
      (∀ rules, RuleSet.forDocs baseline literals = .ok rules ↔
        SmallEnough literals ∧ rules = stale.toList ++ [repositoryArity, indexSyntax]) ∧
      (∀ e, RuleSet.forDocs baseline literals = .error e ↔
        ¬ SmallEnough literals ∧ e = .invalidPattern "stale-version") ∧
      (∀ r ∈ stale, r.id = "stale-version") ∧
      repositoryArity.id = "invalid-memrisrepository-arity" ∧ repositoryArity.IsWritten ∧
      indexSyntax.id = "invalid-index-annotation-syntax" ∧ indexSyntax.IsWritten ∧
      (∀ line : String, '\n' ∉ line.toList →
        (repositoryArity.flags line = true ↔ SeparatesArguments line)) ∧
      ∀ line : String, indexSyntax.flags line = true ↔ NamesIndexType line := by
  refine ⟨staleVersion? baseline literals, rfl, fun _ => RuleSet.forDocs_eq_ok_iff,
    fun _ => RuleSet.forDocs_eq_error_iff, ?_, rfl, isWritten_repositoryArity, rfl,
    isWritten_indexSyntax, fun _ => repositoryArity_flags_iff, fun _ => indexSyntax_flags_iff⟩
  intro r stale
  obtain ⟨written, _, rfl⟩ := Option.map_eq_some_iff.mp stale
  rfl

/-- Arguments count however blank they are, and an index is found behind blanks of every kind. -/
theorem blank_arguments_exact :
    '\n' ∉ "MemrisRepository< ,\u2003> @Index(\u3000 IndexType.HASH)".toList ∧
      SeparatesArguments "MemrisRepository< ,\u2003> @Index(\u3000 IndexType.HASH)" ∧
      NamesIndexType "MemrisRepository< ,\u2003> @Index(\u3000 IndexType.HASH)" := by
  obtain ⟨_, _, _, _, _, _, _, _, _, arityExact, indexExact⟩ := forDocs_structural_exact none []
  have whole : '\n' ∉ "MemrisRepository< ,\u2003> @Index(\u3000 IndexType.HASH)".toList := by
    decide
  exact ⟨whole, (arityExact _ whole).mp (by decide +kernel), (indexExact _).mp (by decide +kernel)⟩

end QualityGates.Rule
