import QualityGates.Proofs.Rule.Literals
import QualityGates.Proofs.Text.Blank
import QualityGates.Text.Separated

/-!
# Blank literals

A literal version may be empty or made of blanks only. Such a literal is looked for like any other
one, so it is found wherever the edges of words leave room for it: an empty one at every word, and
one made of blanks where these separate two words. The entries of a comma list are never blank.
-/

namespace QualityGates

namespace Text

variable {c : Char} {entry list : String}

/-- A text without any character that is not blank; it may be empty. -/
def AllBlank (text : String) : Prop :=
  ∀ c ∈ text.toList, isBlank c = true

/-- The blanks, by their code points. -/
def blankRanges : List (Nat × Nat) :=
  [(0x09, 0x0D), (0x20, 0x20), (0x85, 0x85), (0xA0, 0xA0), (0x1680, 0x1680), (0x2000, 0x200A),
    (0x2028, 0x2029), (0x202F, 0x202F), (0x205F, 0x205F), (0x3000, 0x3000)]

/-- A blank lies in one of the ranges. -/
theorem inRanges_of_isBlank (blank : isBlank c = true) : inRanges blankRanges c.toNat = true := by
  simp only [isBlank, Bool.or_eq_true, Bool.and_eq_true, decide_eq_true_eq, beq_iff_eq] at blank
  simp only [inRanges, blankRanges, List.any_cons, List.any_nil, Bool.or_eq_true,
    Bool.and_eq_true, decide_eq_true_eq]
  omega

/-- Blanks belong to no word. -/
theorem isWordChar_of_isBlank (blank : isBlank c = true) : isWordChar c = false := by
  -- The kernel computes with `ble` much faster than with decisions of `≤`.
  have apart : blankRanges.all (fun blanks => wordRanges.all fun word =>
      (blanks.2 + 1).ble word.1 || (word.2 + 1).ble blanks.1) = true := by
    decide +kernel
  obtain ⟨blanks, isRange, low, high⟩ := inRanges_iff.mp (inRanges_of_isBlank blank)
  rw [Bool.eq_false_iff]
  intro word
  obtain ⟨letters, isRange', low', high'⟩ := inRanges_iff.mp word
  have outside := List.all_eq_true.mp (List.all_eq_true.mp apart blanks isRange) letters isRange'
  rcases Bool.or_eq_true_iff.mp outside with below | above
  · have below := Nat.le_of_ble_eq_true below
    omega
  · have above := Nat.le_of_ble_eq_true above
    omega

/-- What is left of a text that is trimmed starts and ends with other characters. -/
theorem exists_not_blank_of_trim {cs : List Char} (present : trim cs ≠ []) :
    ∃ c ∈ trim cs, isBlank c = false := by
  unfold trim trimEnd at present ⊢
  rw [List.reverse_ne_nil_iff] at present
  exact ⟨_, List.mem_reverse.mpr (List.head_mem present), List.head_dropWhile_not isBlank present⟩

/-- No entry of a comma list is blank. -/
theorem not_allBlank_of_mem_commaList (member : entry ∈ commaList list) : ¬ AllBlank entry := by
  obtain ⟨cs, listed, rfl⟩ := List.mem_map.mp member
  obtain ⟨trimmed, filled⟩ := List.mem_filter.mp listed
  obtain ⟨piece, _, rfl⟩ := List.mem_map.mp trimmed
  have present : trim piece ≠ [] := by simpa using filled
  obtain ⟨c, inside, other⟩ := exists_not_blank_of_trim present
  intro blank
  have blankToo := blank c (by rwa [String.toList_ofList])
  exact Bool.false_ne_true (other.symm.trans blankToo)

end Text

namespace Rule

open Text (AllBlank isWordChar WordEdge)

variable {text line : String} {before behind : List Char}

/-- In front of what starts no word, an edge of a word is its end. -/
theorem wordEdge_iff_of_head (outside : ∀ c ∈ behind.head?, isWordChar c = false) :
    WordEdge before behind ↔ ∃ c ∈ before.getLast?, isWordChar c = true := by
  have starts : ¬ ∃ c ∈ behind.head?, isWordChar c = true := by
    rintro ⟨c, first, word⟩
    exact Bool.false_ne_true ((outside c first).symm.trans word)
  unfold WordEdge
  rw [eq_false starts, xor_comm, xor_false, id_eq]

/-- Behind what ends no word, an edge of a word is its start. -/
theorem wordEdge_iff_of_getLast (outside : ∀ c ∈ before.getLast?, isWordChar c = false) :
    WordEdge before behind ↔ ∃ c ∈ behind.head?, isWordChar c = true := by
  have ends : ¬ ∃ c ∈ before.getLast?, isWordChar c = true := by
    rintro ⟨c, last, word⟩
    exact Bool.false_ne_true ((outside c last).symm.trans word)
  unfold WordEdge
  rw [eq_false ends, xor_false, id_eq]

/-- The empty text stands in every line with a word. -/
theorem standsIn_empty_iff : StandsIn "" line ↔ ∃ c ∈ line.toList, isWordChar c = true := by
  constructor
  · rintro ⟨before, behind, split, edge, _⟩
    rw [String.toList_empty, List.append_nil] at split
    rw [split]
    rcases edge.or with ⟨c, last, word⟩ | ⟨c, first, word⟩
    · exact ⟨c, List.mem_append_left _ (List.mem_of_getLast? last), word⟩
    · exact ⟨c, List.mem_append_right _ (List.mem_of_head? first), word⟩
  · rintro ⟨c, member, word⟩
    -- The first word of the line has an edge in front of it.
    obtain ⟨first, found⟩ := Option.isSome_iff_exists.mp
      (List.find?_isSome.mpr ⟨c, member, word⟩)
    obtain ⟨isWord, before, behind, split, outside⟩ := List.find?_eq_some_iff_append.mp found
    have edge : WordEdge before (first :: behind) := by
      refine (wordEdge_iff_of_getLast fun d last => ?_).mpr ⟨first, rfl, isWord⟩
      simpa using outside d (List.mem_of_getLast? last)
    refine ⟨before, first :: behind, ?_, edge, ?_⟩
    · rw [split, String.toList_empty, List.append_nil]
    · rwa [String.toList_empty, List.append_nil]

/-- A text stands between two words of a line. -/
def StandsBetweenWords (text line : String) : Prop :=
  ∃ before behind, line.toList = before ++ text.toList ++ behind ∧
    (∃ c ∈ before.getLast?, isWordChar c = true) ∧ ∃ c ∈ behind.head?, isWordChar c = true

/-- Blanks, if there are any, stand where they separate two words. -/
theorem standsIn_blanks_iff (present : text ≠ "") (blank : AllBlank text) :
    StandsIn text line ↔ StandsBetweenWords text line := by
  have some : text.toList ≠ [] := fun none => present (String.toList_eq_nil_iff.mp none)
  have edges (before behind : List Char) :
      (WordEdge before (text.toList ++ behind) ↔ ∃ c ∈ before.getLast?, isWordChar c = true) ∧
        (WordEdge (before ++ text.toList) behind ↔ ∃ c ∈ behind.head?, isWordChar c = true) := by
    constructor
    · refine wordEdge_iff_of_head fun c first => Text.isWordChar_of_isBlank (blank c ?_)
      rw [List.head?_append_of_ne_nil _ some] at first
      exact List.mem_of_head? first
    · refine wordEdge_iff_of_getLast fun c last => Text.isWordChar_of_isBlank (blank c ?_)
      rw [List.getLast?_append_of_ne_nil _ some] at last
      exact List.mem_of_getLast? last
  unfold StandsIn StandsBetweenWords
  simp only [edges]

/-- How a line comes to be reported for a literal. -/
inductive ReportedFor (line : String) : (text : String) → Prop
  /-- The literal says something, and stands in the line. -/
  | literal {text : String} (present : ¬ AllBlank text) (stands : StandsIn text line) :
      ReportedFor line text
  /-- The literal is empty, and there is a word in the line. -/
  | empty (word : ∃ c ∈ line.toList, isWordChar c = true) : ReportedFor line ""
  /-- The literal is made of blanks, and separates two words of the line. -/
  | blanks {text : String} (present : text ≠ "") (blank : AllBlank text)
      (between : StandsBetweenWords text line) : ReportedFor line text

/-- A literal stands in the lines that are reported for it, in one of the three ways. -/
theorem standsIn_iff_reportedFor : StandsIn text line ↔ ReportedFor line text := by
  constructor
  · intro stands
    by_cases blank : AllBlank text
    · by_cases empty : text = ""
      · subst empty
        exact .empty (standsIn_empty_iff.mp stands)
      · exact .blanks empty blank ((standsIn_blanks_iff empty blank).mp stands)
    · exact .literal blank stands
  · intro reported
    cases reported with
    | literal present stands => exact stands
    | empty word => exact standsIn_empty_iff.mpr word
    | blanks present blank between => exact (standsIn_blanks_iff present blank).mpr between

end Rule
end QualityGates
