import QualityGates.Proofs.Rule.Written

/-!
# Rules for literal versions

With literal versions the rule for stale versions looks for these texts and nothing else. A literal
is found where it has an edge of a word on either side, whatever characters it is made of and
whatever the other literals are.
-/

namespace QualityGates.Rule

open Pattern

variable {baseline : Option Version} {literals others : List String} {line : String}

/-- A text stands in a line with an edge of a word on either side. -/
def StandsIn (text line : String) : Prop :=
  ∃ before behind, line.toList = before ++ text.toList ++ behind ∧
    Text.WordEdge before (text.toList ++ behind) ∧ Text.WordEdge (before ++ text.toList) behind

/-- Literals put their rule in front, whatever the baseline. -/
theorem forDocs_of_literals (present : literals ≠ []) :
    forDocs baseline literals = [ofLiterals baseline literals, repositoryArity, indexSyntax] := by
  unfold forDocs
  rw [staleVersion?_of_literals present]
  rfl

/-- The rule for literal versions reports the lines in which one of them stands. -/
theorem ofLiterals_flags_iff (present : literals ≠ []) :
    (ofLiterals baseline literals).flags line = true ↔ ∃ text ∈ literals, StandsIn text line := by
  have some_text : literals.map (fun s => text s.toList) ≠ [] := by simpa using present
  rw [flags_iff]
  show (∃ before stretch behind, _ ∧
    (anyOf (literals.map fun s => text s.toList)).wholeWord.Fits before stretch behind) ↔ _
  simp only [fits_wholeWord_iff, fits_anyOf_iff some_text, List.mem_map]
  constructor
  · rintro ⟨before, stretch, behind, split, ⟨_, ⟨found, member, rfl⟩, fits⟩, start, finish⟩
    obtain rfl := fits_text_iff.mp fits
    exact ⟨found, member, before, behind, split, start, finish⟩
  · rintro ⟨found, member, before, behind, split, start, finish⟩
    exact ⟨before, found.toList, behind, split, ⟨_, ⟨found, member, rfl⟩, fits_text_iff.mpr rfl⟩,
      start, finish⟩

/-- Further literals add to what is reported. -/
theorem ofLiterals_mono {baseline' : Option Version} (present : literals ≠ [])
    (within : ∀ text ∈ literals, text ∈ others)
    (flagged : (ofLiterals baseline literals).flags line = true) :
    (ofLiterals baseline' others).flags line = true := by
  obtain ⟨found, member, stands⟩ := (ofLiterals_flags_iff present).mp flagged
  have present' : others ≠ [] := List.ne_nil_of_mem (within found member)
  exact (ofLiterals_flags_iff present').mpr ⟨found, within found member, stands⟩

/-- The rules are made, and the one for literal versions comes first and reports exactly the lines
in which a literal stands with an edge of a word on either side. Its written form reads as its very
pattern, and the other rules are written too. Only the set of literals matters, and more of them
report more lines. -/
theorem forDocs_literals_exact (baseline : Option Version) (present : literals ≠ [])
    (small : SmallEnough literals) :
    ∃ stale, forDocs baseline literals = [stale, repositoryArity, indexSyntax] ∧
      RuleSet.forDocs baseline literals = .ok [stale, repositoryArity, indexSyntax] ∧
      stale.id = "stale-version" ∧
      ofSource stale.id stale.source stale.message = .ok stale ∧
      (∀ r ∈ forDocs baseline literals, r.IsWritten) ∧
      (∀ line, stale.flags line = true ↔ ∃ text ∈ literals, StandsIn text line) ∧
      ∀ baseline' others, (∀ text ∈ literals, text ∈ others) →
        ∃ stale', (forDocs baseline' others).head? = some stale' ∧
          (SmallEnough others → RuleSet.forDocs baseline' others = .ok (forDocs baseline' others)) ∧
          (∀ line, stale.flags line = true → stale'.flags line = true) ∧
          ((∀ text ∈ others, text ∈ literals) → ∀ line, stale'.flags line = stale.flags line) := by
  have made : RuleSet.forDocs baseline literals =
      .ok [ofLiterals baseline literals, repositoryArity, indexSyntax] := by
    rw [RuleSet.forDocs_of_smallEnough small, forDocs_of_literals present]
  refine ⟨ofLiterals baseline literals, forDocs_of_literals present, made, rfl,
    ofSource_ofLiterals present small, fun r => isWritten_of_mem_forDocs small,
    fun line => ofLiterals_flags_iff present, ?_⟩
  intro baseline' others within
  obtain ⟨found, member⟩ := List.exists_mem_of_ne_nil literals present
  have present' : others ≠ [] := List.ne_nil_of_mem (within found member)
  refine ⟨ofLiterals baseline' others, ?_, RuleSet.forDocs_of_smallEnough,
    fun line => ofLiterals_mono present within, ?_⟩
  · rw [forDocs_of_literals present']
    rfl
  · intro within' line
    rw [Bool.eq_iff_iff]
    exact ⟨ofLiterals_mono present' within', ofLiterals_mono present within⟩

/-- Literals are found also where one starts with another, and whatever characters they hold. -/
theorem overlapping_literals_exact :
    ["0.2", "0.2.1", "a+(b"] ≠ [] ∧ SmallEnough ["0.2", "0.2.1", "a+(b"] ∧
      ∃ stale, forDocs none ["0.2", "0.2.1", "a+(b"] = [stale, repositoryArity, indexSyntax] ∧
        (∃ text ∈ ["0.2", "0.2.1", "a+(b"], StandsIn text "see a+(b2, a+(b") ∧
        ¬∃ text ∈ ["0.2", "0.2.1", "a+(b"], StandsIn text "v0.2.1 or 0.21" := by
  obtain ⟨stale, rules, -, -, -, -, flags_iff, -⟩ :=
    @forDocs_literals_exact ["0.2", "0.2.1", "a+(b"] none (by decide) (by decide)
  have found : (forDocs none ["0.2", "0.2.1", "a+(b"]).head? = some stale := by rw [rules]; rfl
  obtain rfl : ofLiterals none ["0.2", "0.2.1", "a+(b"] = stale := Option.some.inj found
  refine ⟨by decide, by decide, _, rules, (flags_iff _).mp (by decide +kernel), ?_⟩
  rw [← flags_iff]
  decide +kernel

end QualityGates.Rule
