import QualityGates.Proofs.Rule.Written
import QualityGates.Proofs.Text.DigitRuns
import QualityGates.Proofs.Version

/-!
# The rule for versions before the baseline

Without literal versions the rule for stale versions looks for the release line before the baseline.
A line is reported exactly when a version of that release line stands in it apart from words, in
whatever script its last numbers are written.
-/

namespace QualityGates

namespace Text

variable {before stretch behind : List Char} {c : Char}

/-- No character of a word stands next to what is between two parts of a line. -/
def Apart (before behind : List Char) : Prop :=
  (∀ c ∈ before.getLast?, isWordChar c = false) ∧ ∀ c ∈ behind.head?, isWordChar c = false

/-- Words may hold the digits of all scripts. -/
theorem isWordChar_of_isDecimalDigit (digit : isDecimalDigit c = true) : isWordChar c = true := by
  -- The kernel computes with `ble` much faster than with decisions of `≤`.
  have within : decimalDigitRanges.all (fun digits =>
      wordRanges.any fun word => word.1.ble digits.1 && digits.2.ble word.2) = true := by
    decide +kernel
  obtain ⟨digits, member, low, high⟩ := inRanges_iff.mp digit
  obtain ⟨word, member', inside⟩ := List.any_eq_true.mp (List.all_eq_true.mp within digits member)
  obtain ⟨below, above⟩ := Bool.and_eq_true_iff.mp inside
  exact inRanges_iff.mpr ⟨word, member', (Nat.le_of_ble_eq_true below).trans low,
    high.trans (Nat.le_of_ble_eq_true above)⟩

/-- What belongs to no word goes on no number. -/
theorem noDigit_of_noWord {c : Option Char} (noWord : ∀ d ∈ c, isWordChar d = false) :
    NoDigit c := by
  intro d member
  rw [Bool.eq_false_iff]
  intro digit
  exact Bool.false_ne_true ((noWord d member).symm.trans (isWordChar_of_isDecimalDigit digit))

/-- A stretch that starts and ends with characters of words has edges of words on either side
exactly when no other such character stands next to it. -/
theorem edges_iff_apart (start : ∃ c ∈ stretch.head?, isWordChar c = true)
    (finish : ∃ c ∈ stretch.getLast?, isWordChar c = true) :
    WordEdge before (stretch ++ behind) ∧ WordEdge (before ++ stretch) behind ↔
      Apart before behind := by
  obtain ⟨first, head, firstWord⟩ := start
  obtain ⟨last, foot, lastWord⟩ := finish
  have head' : (stretch ++ behind).head? = some first := by
    rw [List.head?_append, head]
    rfl
  have foot' : (before ++ stretch).getLast? = some last := by
    rw [List.getLast?_append, foot]
    rfl
  have front : ∃ c ∈ (stretch ++ behind).head?, isWordChar c = true := ⟨first, head', firstWord⟩
  have back : ∃ c ∈ (before ++ stretch).getLast?, isWordChar c = true := ⟨last, foot', lastWord⟩
  unfold WordEdge Apart
  rw [eq_true front, eq_true back, xor_comm, xor_true]
  simp

/-- Three numbers with dots between them stand apart where they have edges of words. -/
theorem dotted_edges_iff {major minor patch : List Char} (isMajor : IsNumber major)
    (isPatch : IsNumber patch) :
    WordEdge before (dotted major minor patch ++ behind) ∧
        WordEdge (before ++ dotted major minor patch) behind ↔ Apart before behind := by
  obtain ⟨first, majorRest, rfl⟩ := List.exists_cons_of_ne_nil isMajor.1
  have last := List.getLast?_eq_some_getLast isPatch.1
  refine edges_iff_apart ⟨first, rfl, ?_⟩ ⟨patch.getLast isPatch.1, ?_, ?_⟩
  · exact isWordChar_of_isDecimalDigit (isMajor.2 first List.mem_cons_self)
  · have whole : dotted (first :: majorRest) minor patch =
        (first :: majorRest) ++ '.' :: minor ++ ['.'] ++ patch := by
      unfold dotted
      simp
    rw [whole, List.getLast?_append, last]
    rfl
  · exact isWordChar_of_isDecimalDigit (isPatch.2 _ (List.getLast_mem isPatch.1))

end Text

namespace Rule

open Pattern Text WrittenPattern

variable {before stretch behind major minor : List Char}

/-- What fits a major and a minor version with any patch version behind them. -/
theorem fits_minorLine_iff (isMajor : IsNumber major) :
    (sequence [text (major ++ '.' :: (minor ++ ['.'])), digits]).wholeWord.Fits
        before stretch behind ↔
      ∃ patch, stretch = dotted major minor patch ∧ IsNumber patch ∧ Apart before behind := by
  have row : (sequence [text (major ++ '.' :: (minor ++ ['.'])), digits]).Fits
      before stretch behind ↔
      ∃ patch, stretch = dotted major minor patch ∧ IsNumber patch := by
    unfold dotted digits IsNumber
    simp only [fits_sequence_cons_iff, fits_sequence_nil_iff, fits_text_iff, fits_plus_char_iff]
    constructor
    · rintro ⟨_, _, rfl, rfl, patch, _, rfl, number, rfl⟩
      exact ⟨patch, by simp, number⟩
    · rintro ⟨patch, rfl, number⟩
      exact ⟨_, patch, by simp, rfl, patch, [], by simp, number, rfl⟩
  rw [fits_wholeWord_iff, row]
  constructor
  · rintro ⟨⟨patch, rfl, number⟩, edges⟩
    exact ⟨patch, rfl, number, (dotted_edges_iff isMajor number).mp edges⟩
  · rintro ⟨patch, rfl, number, apart⟩
    exact ⟨⟨patch, rfl, number⟩, (dotted_edges_iff isMajor number).mpr apart⟩

/-- What fits a major version with any minor and patch version behind it. -/
theorem fits_majorLine_iff (isMajor : IsNumber major) :
    (sequence [text (major ++ ['.']), digits, char (.one '.'), digits]).wholeWord.Fits
        before stretch behind ↔
      ∃ minor patch, stretch = dotted major minor patch ∧ IsNumber minor ∧ IsNumber patch ∧
        Apart before behind := by
  have row : (sequence [text (major ++ ['.']), digits, char (.one '.'), digits]).Fits
      before stretch behind ↔
      ∃ minor patch, stretch = dotted major minor patch ∧ IsNumber minor ∧ IsNumber patch := by
    unfold dotted digits IsNumber
    simp only [fits_sequence_cons_iff, fits_sequence_nil_iff, fits_text_iff, fits_plus_char_iff,
      fits_char_iff, CharSet.contains, beq_iff_eq]
    constructor
    · rintro ⟨_, _, rfl, rfl, minor, _, rfl, first, _, _, rfl, ⟨_, rfl, rfl⟩, patch, _, rfl, second,
        rfl⟩
      exact ⟨minor, patch, by simp, first, second⟩
    · rintro ⟨minor, patch, rfl, first, second⟩
      exact ⟨_, _, by simp, rfl, minor, _, rfl, first, ['.'], patch, rfl, ⟨'.', rfl, rfl⟩, patch,
        [], by simp, second, rfl⟩
  rw [fits_wholeWord_iff, row]
  constructor
  · rintro ⟨⟨minor, patch, rfl, first, second⟩, edges⟩
    exact ⟨minor, patch, rfl, first, second, (dotted_edges_iff isMajor second).mp edges⟩
  · rintro ⟨minor, patch, rfl, first, second, apart⟩
    exact ⟨⟨minor, patch, rfl, first, second⟩, (dotted_edges_iff isMajor second).mpr apart⟩

variable {baseline : Option Version} {literals : List String} {version v : Version} {r : Rule}
  {line : String}

/-- The rule for stale versions is the one with its identifier. -/
theorem staleVersion?_eq_some_iff : staleVersion? baseline literals = some r ↔
    r ∈ forDocs baseline literals ∧ r.id = staleVersionId := by
  unfold forDocs
  rw [List.mem_append, Option.mem_toList, or_and_right]
  constructor
  · intro stale
    obtain ⟨written, _, rfl⟩ := Option.map_eq_some_iff.mp stale
    exact .inl ⟨stale, rfl⟩
  · rintro (⟨stale, _⟩ | ⟨structural, same⟩)
    · exact stale
    · rcases List.mem_pair.mp structural with rfl | rfl
      · exact absurd same (by decide)
      · exact absurd same (by decide)

/-- There is a release line before every version but those of the first one. -/
theorem exists_stale_iff : (∃ r, staleVersion? (some version) [] = some r) ↔
    0 < version.minor ∨ 0 < version.major := by
  have rule : (∃ r, staleVersion? (some version) [] = some r) ↔
      (precedingVersions? version).isSome = true := by
    rw [← Option.isSome_iff_exists]
    show ((precedingVersions? version).map _).isSome = true ↔ _
    rw [Option.isSome_map]
  rw [rule]
  unfold precedingVersions?
  by_cases minor : 0 < version.minor
  · rw [if_pos minor]
    exact iff_of_true rfl (.inl minor)
  · rw [if_neg minor, or_iff_right minor]
    by_cases major : 0 < version.major
    · rw [if_pos major]
      exact iff_of_true rfl major
    · rw [if_neg major]
      exact iff_of_false Bool.false_ne_true major

/-- A word above zero, less one, is the number less one. -/
theorem toNat_sub_one {n : UInt64} (positive : 0 < n) : (n - 1).toNat = n.toNat - 1 := by
  have one_le : (1 : UInt64) ≤ n := by
    rw [UInt64.le_iff_toNat_le]
    exact UInt64.lt_iff_toNat_lt.mp positive
  rw [UInt64.toNat_sub_of_le _ _ one_le]
  rfl

/-- With a minor version before the baseline, the pattern holds its number. -/
theorem pattern_of_minor (stale : staleVersion? (some version) [] = some r)
    (minor : 0 < version.minor) : r.pattern =
      (sequence [text ((Number.natText version.major.toNat).toList ++
        '.' :: ((Number.natText (version.minor.toNat - 1)).toList ++ ['.'])),
          digits]).wholeWord := by
  obtain ⟨written, preceding, rfl⟩ := Option.map_eq_some_iff.mp stale
  obtain rfl := Option.some.inj ((if_pos minor).symm.trans preceding)
  have chars : (Number.natText version.major.toNat ++ "." ++
        Number.natText (version.minor - 1).toNat ++ ".").toList =
      (Number.natText version.major.toNat).toList ++
        '.' :: ((Number.natText (version.minor.toNat - 1)).toList ++ ['.']) := by
    rw [toNat_sub_one minor]
    simp
  rw [← chars]

/-- Without a minor version before the baseline, the pattern holds the major version before. -/
theorem pattern_of_major (stale : staleVersion? (some version) [] = some r)
    (minor : version.minor = 0) : r.pattern =
      (sequence [text ((Number.natText (version.major.toNat - 1)).toList ++ ['.']), digits,
        char (.one '.'), digits]).wholeWord := by
  have no_minor : ¬0 < version.minor := by
    rw [minor]
    decide
  have major : 0 < version.major := (exists_stale_iff.mp ⟨r, stale⟩).resolve_left no_minor
  obtain ⟨written, preceding, rfl⟩ := Option.map_eq_some_iff.mp stale
  obtain rfl := Option.some.inj (((if_neg no_minor).trans (if_pos major)).symm.trans preceding)
  have chars : (Number.natText (version.major - 1).toNat ++ ".").toList =
      (Number.natText (version.major.toNat - 1)).toList ++ ['.'] := by
    rw [toNat_sub_one major, String.toList_append]
    rfl
  rw [← chars]

/-- With a minor version before the baseline, the rule looks for its patch versions. -/
theorem flags_minorLine_iff (stale : staleVersion? (some version) [] = some r)
    (minor : 0 < version.minor) : r.flags line = true ↔
      ∃ before patch behind, line.toList = before ++
          dotted (Number.natText version.major.toNat).toList
            (Number.natText (version.minor.toNat - 1)).toList patch ++ behind ∧
        IsNumber patch ∧ Apart before behind := by
  rw [flags_iff, pattern_of_minor stale minor]
  simp only [fits_minorLine_iff (Number.isNumber_natText _)]
  constructor
  · rintro ⟨before, _, behind, split, patch, rfl, number, apart⟩
    exact ⟨before, patch, behind, split, number, apart⟩
  · rintro ⟨before, patch, behind, split, number, apart⟩
    exact ⟨before, _, behind, split, patch, rfl, number, apart⟩

/-- With a major version before the baseline, the rule looks for its minor and patch versions. -/
theorem flags_majorLine_iff (stale : staleVersion? (some version) [] = some r)
    (minor : version.minor = 0) : r.flags line = true ↔
      ∃ before minor patch behind, line.toList = before ++
          dotted (Number.natText (version.major.toNat - 1)).toList minor patch ++ behind ∧
        IsNumber minor ∧ IsNumber patch ∧ Apart before behind := by
  rw [flags_iff, pattern_of_major stale minor]
  simp only [fits_majorLine_iff (Number.isNumber_natText _)]
  constructor
  · rintro ⟨before, _, behind, split, minor, patch, rfl, first, second, apart⟩
    exact ⟨before, minor, patch, behind, split, first, second, apart⟩
  · rintro ⟨before, minor, patch, behind, split, first, second, apart⟩
    exact ⟨before, _, behind, split, minor, patch, rfl, first, second, apart⟩

/-- The only numbers of a line are those of a version that stands in it apart from words. -/
def OnlyVersion (v : Version) (line : String) : Prop :=
  ∃ before behind, line.toList = before ++ v.text.toList ++ behind ∧ Apart before behind ∧
    (∀ c ∈ before, isDecimalDigit c = false) ∧ ∀ c ∈ behind, isDecimalDigit c = false

/-- A version belongs to the release line before another one: the same major version with the minor
version before or, without one, the major version before. -/
def Precedes (v version : Version) : Prop :=
  if 0 < version.minor then
    v.major = version.major ∧ v.minor.toNat + 1 = version.minor.toNat
  else v.major.toNat + 1 = version.major.toNat

/-- No version precedes its own release line. -/
theorem not_precedes_own (major : v.major = version.major) (minor : v.minor = version.minor) :
    ¬Precedes v version := by
  unfold Precedes
  split
  · rintro ⟨_, next⟩
    rw [minor] at next
    omega
  · rw [major]
    omega

/-- The only version of a line is reported when it precedes the baseline. -/
theorem flags_onlyVersion_iff (stale : staleVersion? (some version) [] = some r)
    (only : OnlyVersion v line) : r.flags line = true ↔ Precedes v version := by
  obtain ⟨before, behind, split, apart, front, back⟩ := only
  rw [Version.text_dotted] at split
  have number (n : UInt64) := Number.isNumber_natText n.toNat
  have unique {before' behind' major minor patch : List Char} (isMajor : IsNumber major)
      (isMinor : IsNumber minor) (isPatch : IsNumber patch) (apart' : Apart before' behind')
      (split' : line.toList = before' ++ dotted major minor patch ++ behind') :=
    dotted_unique (number v.major) (number v.minor) (number v.patch) isMajor isMinor isPatch front
      back (noDigit_of_noWord apart'.1) (noDigit_of_noWord apart'.2) (split.symm.trans split')
  unfold Precedes
  by_cases minor : 0 < version.minor
  · have positive : 0 < version.minor.toNat := UInt64.lt_iff_toNat_lt.mp minor
    rw [flags_minorLine_iff stale minor, if_pos minor]
    constructor
    · rintro ⟨before', patch, behind', split', isPatch, apart'⟩
      obtain ⟨major, minor', -⟩ := unique (Number.isNumber_natText _) (Number.isNumber_natText _)
        isPatch apart' split'
      have next := Number.natText_inj minor'
      exact ⟨UInt64.toNat_inj.mp (Number.natText_inj major), by omega⟩
    · rintro ⟨major, next⟩
      have before_minor : version.minor.toNat - 1 = v.minor.toNat := by omega
      rw [← major, before_minor]
      exact ⟨before, _, behind, split, number v.patch, apart⟩
  · have zero : version.minor = 0 := by
      rw [← UInt64.toNat_inj]
      rw [UInt64.lt_iff_toNat_lt] at minor
      exact Nat.eq_zero_of_not_pos minor
    have major : 0 < version.major := (exists_stale_iff.mp ⟨r, stale⟩).resolve_left minor
    have positive : 0 < version.major.toNat := UInt64.lt_iff_toNat_lt.mp major
    rw [flags_majorLine_iff stale zero, if_neg minor]
    constructor
    · rintro ⟨before', minor', patch, behind', split', isMinor, isPatch, apart'⟩
      obtain ⟨major', -, -⟩ := unique (Number.isNumber_natText _) isMinor isPatch apart' split'
      have next := Number.natText_inj major'
      omega
    · intro next
      have before_major : version.major.toNat - 1 = v.major.toNat := by omega
      rw [before_major]
      exact ⟨before, _, _, behind, split, number v.minor, number v.patch, apart⟩

/-- Nothing precedes the first release line. -/
theorem exists_stale_of_precedes (precedes : Precedes v version) :
    ∃ r, staleVersion? (some version) [] = some r := by
  rw [exists_stale_iff]
  by_cases minor : 0 < version.minor
  · exact .inl minor
  · unfold Precedes at precedes
    rw [if_neg minor] at precedes
    refine .inr (UInt64.lt_iff_toNat_lt.mpr ?_)
    rw [← precedes]
    exact Nat.succ_pos _

/-- Given a baseline alone, the rules are always made, and there is one for stale versions unless
the baseline is of the first release line. The rule reports exactly the lines in which a version of
the release line before the baseline stands apart from words. A line with one version and no other
number is reported for a version of that release line and for none of the baseline's own. -/
theorem forDocs_baseline_exact (version : Version) :
    RuleSet.forDocs (some version) [] = .ok (forDocs (some version) []) ∧
      (∀ r ∈ forDocs (some version) [], r.IsWritten) ∧
      ((∃ r ∈ forDocs (some version) [], r.id = "stale-version") ↔
        0 < version.minor ∨ 0 < version.major) ∧
      (∀ r ∈ forDocs (some version) [], r.id = "stale-version" → ∀ line,
        (0 < version.minor → (r.flags line = true ↔
          ∃ before patch behind, line.toList = before ++
              dotted (Number.natText version.major.toNat).toList
                (Number.natText (version.minor.toNat - 1)).toList patch ++ behind ∧
            IsNumber patch ∧ Apart before behind)) ∧
        (version.minor = 0 → (r.flags line = true ↔
          ∃ before minor patch behind, line.toList = before ++
              dotted (Number.natText (version.major.toNat - 1)).toList minor patch ++ behind ∧
            IsNumber minor ∧ IsNumber patch ∧ Apart before behind))) ∧
      ∀ v line, OnlyVersion v line →
        ((∃ r ∈ forDocs (some version) [], r.id = "stale-version" ∧ r.flags line = true) ↔
          Precedes v version) ∧
        (v.major = version.major → v.minor = version.minor →
          ∀ r ∈ forDocs (some version) [], r.id = "stale-version" → r.flags line = false) := by
  have stale_of {r : Rule} (member : r ∈ forDocs (some version) [])
      (same : r.id = "stale-version") :
      staleVersion? (some version) [] = some r := staleVersion?_eq_some_iff.mpr ⟨member, same⟩
  refine ⟨RuleSet.forDocs_of_smallEnough (by decide), fun r => isWritten_of_mem_forDocs (by decide),
    ?_, ?_, fun v line only => ⟨?_, ?_⟩⟩
  · rw [← exists_stale_iff]
    constructor
    · rintro ⟨r, member, same⟩
      exact ⟨r, stale_of member same⟩
    · rintro ⟨r, stale⟩
      exact ⟨r, staleVersion?_eq_some_iff.mp stale⟩
  · intro r member same line
    exact ⟨flags_minorLine_iff (stale_of member same), flags_majorLine_iff (stale_of member same)⟩
  · constructor
    · rintro ⟨r, member, same, flagged⟩
      exact (flags_onlyVersion_iff (stale_of member same) only).mp flagged
    · intro precedes
      obtain ⟨r, stale⟩ := exists_stale_of_precedes precedes
      obtain ⟨member, same⟩ := staleVersion?_eq_some_iff.mp stale
      exact ⟨r, member, same, (flags_onlyVersion_iff stale only).mpr precedes⟩
  · intro major minor r member same
    rw [Bool.eq_false_iff, ne_eq, flags_onlyVersion_iff (stale_of member same) only]
    exact not_precedes_own major minor

/-- A patch version of the minor version before is reported, whatever punctuation is around it. -/
theorem preceding_patch_reported :
    OnlyVersion ⟨0, 2, 7⟩ "use (0.2.7), not older" ∧
      ∃ r ∈ forDocs (some ⟨0, 3, 1⟩) [], r.id = "stale-version" ∧
        r.flags "use (0.2.7), not older" = true := by
  have noDigit {cs : List Char} (all : cs.all (fun c => !isDecimalDigit c) = true) :
      ∀ c ∈ cs, isDecimalDigit c = false :=
    fun c member => Bool.not_eq_true' _ ▸ List.all_eq_true.mp all c member
  have apart : Apart "use (".toList "), not older".toList := by
    constructor
    · rintro c last
      cases (show some '(' = some c from last)
      decide +kernel
    · rintro c first
      cases (show some ')' = some c from first)
      decide +kernel
  have only : OnlyVersion ⟨0, 2, 7⟩ "use (0.2.7), not older" :=
    ⟨"use (".toList, "), not older".toList, by decide, apart, noDigit (by decide +kernel),
      noDigit (by decide +kernel)⟩
  obtain ⟨-, -, -, -, versions⟩ := forDocs_baseline_exact ⟨0, 3, 1⟩
  exact ⟨only, (versions _ _ only).1.mpr (by unfold Precedes; decide)⟩

end Rule
end QualityGates
