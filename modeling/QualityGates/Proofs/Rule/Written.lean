import Mathlib.Algebra.Order.BigOperators.Group.List
import QualityGates.Proofs.Number.Digits
import QualityGates.Proofs.Pattern.Written

/-!
# The written forms of rules

The rules of the drift gate are given by a written form and by a pattern. The written form reads as
a pattern that finds the same lines, so what is shown of the patterns holds of the written forms.
The set of rules is made unless literal versions are too large, whatever the baseline.
-/

namespace QualityGates.Rule

open Pattern

variable {r : Rule} {rows : List (List Pattern)} {cs : List Char} {baseline : Option Version}
  {version : Version} {literals : List String}

/-- A rule reports the lines that have a stretch which fits its pattern. -/
theorem flags_iff {line : String} : r.flags line = true ↔
    ∃ before stretch behind, line.toList = before ++ stretch ++ behind ∧
      r.pattern.Fits before stretch behind :=
  isIn_iff

/-- The written form of a rule reads as a pattern that reports what the rule reports. -/
def IsWritten (r : Rule) : Prop :=
  ∃ read, ofSource r.id r.source r.message = .ok read ∧ ∀ line, read.flags line = r.flags line

/-- A rule is written when its form reads as a pattern that fits the same stretches. -/
theorem isWritten_of_fits {p : Pattern} (read : ofText? r.source = some p)
    (alike : ∀ before stretch behind,
      p.Fits before stretch behind ↔ r.pattern.Fits before stretch behind) : r.IsWritten := by
  refine ⟨{ r with pattern := p }, ?_, isIn_congr alike⟩
  unfold ofSource
  rw [read]

/-- A rule that is written passes the check of its form. -/
theorem checked_of_isWritten (written : r.IsWritten) : r.checked = .ok r := by
  obtain ⟨read, made, _⟩ := written
  unfold ofSource at made
  unfold checked
  cases form : ofText? r.source with
  | some p => rfl
  | none =>
    rw [form] at made
    cases made

/-- The rule for repositories is written. -/
theorem isWritten_repositoryArity : repositoryArity.IsWritten := by
  have read : ofText? repositoryArity.source =
      some (sequence (List.flatten
        ["MemrisRepository<".toList.map fun c => char (.one c), [typeArguments], [.char (.one ',')],
          [.star (.char .blank)], [typeArguments], [.char (.one '>')]])) := by
    decide +kernel
  refine isWritten_of_fits read fun before stretch behind => ?_
  rw [fits_sequence_flatten_iff, List.map_cons, ← text_eq]
  rfl

/-- The rule for annotations is written. -/
theorem isWritten_indexSyntax : indexSyntax.IsWritten := by
  have read : ofText? indexSyntax.source =
      some (sequence (List.flatten
        ["@Index(".toList.map fun c => char (.one c), [.star (.char .blank)],
          "IndexType.".toList.map fun c => char (.one c)])) := by
    decide +kernel
  refine isWritten_of_fits read fun before stretch behind => ?_
  rw [fits_sequence_flatten_iff, List.map_cons, List.map_cons, List.map_cons, ← text_eq, ← text_eq]
  rfl

/-! ## Versions of a release line -/

/-- A row of rows between edges of words is one row between edges of words. -/
theorem fits_edged_iff {before stretch behind : List Char} :
    (Pattern.sequence ([.edge .wordEdge] ++ rows.flatten ++ [.edge .wordEdge])).Fits before stretch
        behind ↔
      (Pattern.sequence (rows.map Pattern.sequence)).wholeWord.Fits before stretch behind := by
  have flat : [Pattern.edge .wordEdge] ++ rows.flatten ++ [.edge .wordEdge] =
      List.flatten [[.edge .wordEdge], rows.flatten, [.edge .wordEdge]] := by
    rw [List.flatten_cons, List.flatten_cons, List.flatten_singleton, List.append_assoc]
  have whole : (sequence rows.flatten).wholeWord.Fits before stretch behind ↔
      (sequence (rows.map sequence)).wholeWord.Fits before stretch behind := by
    rw [fits_wholeWord_iff, fits_wholeWord_iff, fits_sequence_flatten_iff]
  rw [flat, fits_sequence_flatten_iff, ← whole]
  rfl

/-- The texts in front of the numbers in versions of the release line before a version. -/
def precedingTexts (version : Version) : List (List Char) :=
  if 0 < version.minor then
    [(Number.natText version.major.toNat ++ "." ++
      Number.natText (version.minor - 1).toNat ++ ".").toList]
  else [(Number.natText (version.major - 1).toNat ++ ".").toList, ['.']]

/-- The number of a word is not quoted. -/
theorem quoteChars_natText (n : Nat) :
    quoteChars (Number.natText n).toList = (Number.natText n).toList := by
  refine quoteChars_of_digits fun c member => ?_
  rw [Number.natText, String.toList_ofList] at member
  exact Number.isDigit_of_mem_toDigits member

/-- The number of a word has at most twenty digits. -/
theorem length_natText_le (n : UInt64) : (Number.natText n.toNat).toList.length ≤ 20 := by
  rw [Number.natText, String.toList_ofList, Nat.length_toDigits_le_iff (by decide) (by decide)]
  exact Nat.lt_trans n.toNat_lt (by decide)

/-- A text takes at most four steps for each of its characters. -/
theorem sum_utf8Size_le (cs : List Char) : (cs.map Char.utf8Size).sum ≤ cs.length * 4 := by
  have each : ∀ size ∈ cs.map Char.utf8Size, size ≤ 4 := by
    intro size member
    obtain ⟨c, _, rfl⟩ := List.mem_map.mp member
    exact c.utf8Size_le_four
  have total := List.sum_le_card_nsmul (cs.map Char.utf8Size) 4 each
  rw [List.length_map] at total
  exact total

/-- The written form and the pattern of preceding versions are those of their texts. -/
theorem precedingVersions?_eq {written : WrittenPattern}
    (preceding : WrittenPattern.precedingVersions? version = some written) :
    written.source.toList =
        '\\' :: 'b' :: (numberedChars (precedingTexts version) ++ ['\\', 'b']) ∧
      written.pattern = (sequence ((numberedRows (precedingTexts version)).map sequence)).wholeWord
      := by
  unfold WrittenPattern.precedingVersions? at preceding
  unfold precedingTexts numberedChars numberedRows
  by_cases minor : 0 < version.minor
  · rw [if_pos minor] at preceding ⊢
    cases preceding
    refine ⟨?_, ?_⟩
    · simp only [String.toList_append, List.flatMap_singleton, quoteChars_append,
        quoteChars_natText, List.append_assoc]
      rfl
    · simp only [List.flatMap_singleton, List.map_cons, ← text_eq]
      rfl
  · rw [if_neg minor] at preceding ⊢
    obtain ⟨_, same⟩ := Option.ite_none_right_eq_some.mp preceding
    cases same
    refine ⟨?_, ?_⟩
    · simp only [String.toList_append, List.flatMap_cons, List.flatMap_nil, quoteChars_append,
        quoteChars_natText, List.append_assoc]
      rfl
    · simp only [List.flatMap_cons, List.flatMap_nil, List.map_cons, List.map_append, ← text_eq]
      rfl

/-- The texts in front of the numbers are never too long to be read. -/
theorem precedingTexts_size (version : Version) :
    ((precedingTexts version).flatten.map Char.utf8Size).sum +
      151 * (precedingTexts version).length + 2 ≤ sizeLimit := by
  have major := length_natText_le version.major
  have majorBefore := length_natText_le (version.major - 1)
  have minorBefore := length_natText_le (version.minor - 1)
  have steps := sum_utf8Size_le (precedingTexts version).flatten
  have short : (precedingTexts version).flatten.length ≤ 42 ∧
      (precedingTexts version).length ≤ 2 := by
    unfold precedingTexts
    split <;> simp [String.length_toList] at major majorBefore minorBefore ⊢ <;> omega
  unfold sizeLimit
  omega

/-- The rule for the versions of the release line before the baseline is written. -/
theorem isWritten_preceding (stale : staleVersion? (some version) [] = some r) : r.IsWritten := by
  obtain ⟨written, preceding, rfl⟩ := Option.map_eq_some_iff.mp stale
  obtain ⟨source, pattern⟩ := precedingVersions?_eq preceding
  refine isWritten_of_fits (p := sequence ([.edge .wordEdge] ++
    (numberedRows (precedingTexts version)).flatten ++ [.edge .wordEdge])) ?_ ?_
  · show ofText? written.source = _
    rw [ofText?, source, ofChars?_numbered, if_pos (precedingTexts_size version)]
  · intro before stretch behind
    show _ ↔ written.pattern.Fits before stretch behind
    rw [pattern]
    exact fits_edged_iff

/-! ## Literal versions -/

/-- Literals are small enough for their pattern: the steps that it takes, with its edges and its
group, are within the limit that stands in for the one of the matching library. -/
def SmallEnough (literals : List String) : Prop :=
  textsSize (literals.map String.toList) + 3 ≤ sizeLimit

instance (literals : List String) : Decidable (SmallEnough literals) :=
  inferInstanceAs (Decidable (_ ≤ _))

/-- The rule for literal versions. -/
def ofLiterals (baseline : Option Version) (literals : List String) : Rule where
  id := staleVersionId
  source := (WrittenPattern.ofLiterals literals).source
  message := staleMessage baseline
  pattern := (WrittenPattern.ofLiterals literals).pattern

/-- Literals give their rule, whatever the baseline. -/
theorem staleVersion?_of_literals (present : literals ≠ []) :
    staleVersion? baseline literals = some (ofLiterals baseline literals) := by
  unfold staleVersion? stalePattern?
  rw [if_neg (by simpa using present)]
  rfl

/-- The written form of literals reads as their pattern, unless it is too large. -/
theorem ofText?_ofLiterals (present : literals ≠ []) :
    ofText? (WrittenPattern.ofLiterals literals).source =
      if SmallEnough literals then some (WrittenPattern.ofLiterals literals).pattern else none := by
  have chars : (WrittenPattern.ofLiterals literals).source.toList = "\\b(?:".toList ++
      List.intercalate ['|'] ((literals.map String.toList).map quoteChars) ++ ")\\b".toList := by
    unfold WrittenPattern.ofLiterals
    simp only [String.toList_append, String.toList_intercalate, List.map_map]
    simp only [Function.comp_def, String.toList_ofList]
    rfl
  have texts : literals.map String.toList ≠ [] := by simpa using present
  have read := ofChars?_choice texts
  rw [ofText?, chars, read, List.map_map]
  rfl

/-- The written form of the rule for literal versions reads as this very rule. -/
theorem ofSource_ofLiterals (present : literals ≠ []) (small : SmallEnough literals) :
    ofSource (ofLiterals baseline literals).id (ofLiterals baseline literals).source
      (ofLiterals baseline literals).message = .ok (ofLiterals baseline literals) := by
  have read : ofText? (ofLiterals baseline literals).source = _ := ofText?_ofLiterals present
  unfold ofSource
  rw [read, if_pos small]
  rfl

/-- The rules of the drift gate are written as long as the literals are not too large. -/
theorem isWritten_of_mem_forDocs (small : SmallEnough literals)
    (member : r ∈ forDocs baseline literals) : r.IsWritten := by
  rcases List.mem_append.mp member with stale | structural
  · rw [Option.mem_toList] at stale
    by_cases present : literals = []
    · subst present
      cases baseline with
      | none => cases stale
      | some version => exact isWritten_preceding stale
    · rw [staleVersion?_of_literals present] at stale
      cases stale
      exact ⟨_, ofSource_ofLiterals present small, fun _ => rfl⟩
  · rcases List.mem_pair.mp structural with rfl | rfl
    · exact isWritten_repositoryArity
    · exact isWritten_indexSyntax

/-- A text of zeros. -/
def zeros (n : Nat) : String :=
  String.ofList (List.replicate (n + 1) '0')

end QualityGates.Rule

namespace QualityGates.RuleSet

open Rule (SmallEnough)

variable {baseline : Option Version} {literals : List String} {rules : List Rule} {e : GateError}

/-- Rules that are written are made as they are. -/
theorem ofRules_of_isWritten (written : ∀ r ∈ rules, r.IsWritten) : ofRules rules = .ok rules := by
  induction rules with
  | nil => rfl
  | cons rule rules ih =>
    rw [List.forall_mem_cons] at written
    rw [ofRules, Rule.checked_of_isWritten written.1]
    dsimp only
    rw [ih written.2]
    rfl

/-- The rules of the drift gate are made as long as the literals are not too large. -/
theorem forDocs_of_smallEnough (small : SmallEnough literals) :
    forDocs baseline literals = .ok (Rule.forDocs baseline literals) :=
  ofRules_of_isWritten fun _ => Rule.isWritten_of_mem_forDocs small

/-- Literals that are too large are the fault of the rule for stale versions. -/
theorem forDocs_of_tooLarge (large : ¬ SmallEnough literals) :
    forDocs baseline literals = .error (.invalidPattern Rule.staleVersionId) := by
  have present : literals ≠ [] := by
    rintro rfl
    exact large (by decide)
  have unread : (Rule.ofLiterals baseline literals).checked =
      .error (.invalidPattern Rule.staleVersionId) := by
    have form : Pattern.ofText? (Rule.ofLiterals baseline literals).source = _ :=
      Rule.ofText?_ofLiterals present
    unfold Rule.checked
    rw [form, if_neg large]
    rfl
  unfold forDocs Rule.forDocs
  rw [Rule.staleVersion?_of_literals present, Option.toList_some, List.singleton_append, ofRules,
    unread]

/-- A set of rules is made exactly for literals that are small enough, and holds the rules that the
gate asks for. -/
theorem forDocs_eq_ok_iff : forDocs baseline literals = .ok rules ↔
    SmallEnough literals ∧ rules = Rule.forDocs baseline literals := by
  by_cases small : SmallEnough literals
  · rw [forDocs_of_smallEnough small, Except.ok.injEq, and_iff_right small]
    exact eq_comm
  · rw [forDocs_of_tooLarge small]
    exact ⟨fun same => (nomatch same), fun both => absurd both.1 small⟩

/-- No set of rules is made exactly for literals that are too large, and the error names the rule
for stale versions. -/
theorem forDocs_eq_error_iff : forDocs baseline literals = .error e ↔
    ¬ SmallEnough literals ∧ e = .invalidPattern Rule.staleVersionId := by
  by_cases small : SmallEnough literals
  · rw [forDocs_of_smallEnough small]
    exact ⟨fun same => (nomatch same), fun both => absurd small both.1⟩
  · rw [forDocs_of_tooLarge small, Except.error.injEq, and_iff_right small]
    exact eq_comm

end QualityGates.RuleSet
