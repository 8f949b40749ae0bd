import Mathlib.Data.List.SplitBy
import QualityGates.Proofs.Number.Digits
import QualityGates.Text.DecimalDigit

/-!
# Runs of digits

The numbers in a line are its runs of decimal digits. A number between characters that are no digits
is a run, so two ways to see the same numbers in a line see them in the same order.
-/

namespace QualityGates

namespace Text

variable {cs before digits behind : List Char}

/-- One or more decimal digits. -/
def IsNumber (cs : List Char) : Prop :=
  cs ≠ [] ∧ ∀ c ∈ cs, isDecimalDigit c = true

/-- A character does not go on a number. -/
def NoDigit (c : Option Char) : Prop :=
  ∀ d ∈ c, isDecimalDigit d = false

/-- The runs of decimal digits from left to right. -/
def digitRuns (cs : List Char) : List (List Char) :=
  (cs.splitBy fun c d => isDecimalDigit c == isDecimalDigit d).filter (·.all isDecimalDigit)

/-- A text without digits has no runs of them. -/
theorem digitRuns_of_none (none : ∀ c ∈ cs, isDecimalDigit c = false) : digitRuns cs = [] := by
  refine List.filter_eq_nil_iff.mpr fun run member all => ?_
  obtain ⟨c, rest, rfl⟩ := List.exists_cons_of_ne_nil (List.ne_nil_of_mem_splitBy member)
  have within : c ∈ cs := by
    rw [← List.flatten_splitBy _ cs]
    exact List.mem_flatten_of_mem member List.mem_cons_self
  have digit : isDecimalDigit c = true := List.all_eq_true.mp all c List.mem_cons_self
  exact Bool.false_ne_true ((none c within).symm.trans digit)

/-- Digits are one run. -/
theorem digitRuns_number (number : IsNumber digits) : digitRuns digits = [digits] := by
  have chain : digits.IsChain fun c d => (isDecimalDigit c == isDecimalDigit d) = true := by
    refine List.Pairwise.isChain (List.pairwise_of_forall_mem_list fun c first d second => ?_)
    rw [number.2 c first, number.2 d second]
    rfl
  rw [digitRuns, List.splitBy_of_isChain number.1 chain]
  exact List.filter_eq_self.mpr fun run member => by
    rw [List.mem_singleton.mp member]
    exact List.all_eq_true.mpr number.2

/-- Runs do not reach over a change between digits and other characters. -/
theorem digitRuns_append
    (change : ∀ c ∈ before.getLast?, ∀ d ∈ behind.head?, isDecimalDigit c ≠ isDecimalDigit d) :
    digitRuns (before ++ behind) = digitRuns before ++ digitRuns behind := by
  unfold digitRuns
  rw [List.splitBy_append fun c last d first => beq_eq_false_iff_ne.mpr (change c last d first),
    List.filter_append]

/-- A number between other characters is a run. -/
theorem digitRuns_split (number : IsNumber digits) (front : NoDigit before.getLast?)
    (back : NoDigit behind.head?) :
    digitRuns (before ++ digits ++ behind) = digitRuns before ++ digits :: digitRuns behind := by
  have first : ∀ c ∈ before.getLast?, ∀ d ∈ digits.head?,
      isDecimalDigit c ≠ isDecimalDigit d := by
    intro c last d head
    rw [front c last, number.2 d (List.mem_of_mem_head? head)]
    exact Bool.false_ne_true
  have second : ∀ c ∈ (before ++ digits).getLast?, ∀ d ∈ behind.head?,
      isDecimalDigit c ≠ isDecimalDigit d := by
    intro c last d head
    rw [List.getLast?_append_of_ne_nil before number.1] at last
    rw [back d head, number.2 c (List.mem_of_getLast? last)]
    exact Bool.noConfusion
  rw [digitRuns_append second, digitRuns_append first, digitRuns_number number, List.append_assoc]
  rfl

/-- Three texts with dots between them. -/
def dotted (major minor patch : List Char) : List Char :=
  major ++ '.' :: (minor ++ '.' :: patch)

/-- Three numbers with dots between them are three runs. -/
theorem digitRuns_dotted {major minor patch : List Char} (isMajor : IsNumber major)
    (isMinor : IsNumber minor) (isPatch : IsNumber patch) (front : NoDigit before.getLast?)
    (back : NoDigit behind.head?) :
    digitRuns (before ++ dotted major minor patch ++ behind) =
      digitRuns before ++ [major, minor, patch] ++ digitRuns behind := by
  have dot : NoDigit (some '.') := by
    intro c same
    obtain rfl := Option.some.inj same
    decide
  have noRuns : digitRuns ['.'] = [] := by decide
  have last : digitRuns ('.' :: (patch ++ behind)) = patch :: digitRuns behind := by
    have split : digitRuns (['.'] ++ patch ++ behind) = _ := digitRuns_split isPatch dot back
    rw [noRuns] at split
    exact split
  have more : digitRuns ('.' :: (minor ++ '.' :: (patch ++ behind))) =
      minor :: patch :: digitRuns behind := by
    have split : digitRuns (['.'] ++ minor ++ '.' :: (patch ++ behind)) = _ :=
      digitRuns_split isMinor dot dot
    rw [noRuns, last] at split
    exact split
  have split : digitRuns (before ++ major ++ '.' :: (minor ++ '.' :: (patch ++ behind))) = _ :=
    digitRuns_split isMajor front dot
  rw [more] at split
  have shape : before ++ dotted major minor patch ++ behind =
      before ++ major ++ '.' :: (minor ++ '.' :: (patch ++ behind)) := by
    unfold dotted
    simp only [List.append_assoc, List.cons_append]
  rw [shape, split, List.append_assoc]
  rfl

/-- The only three numbers of a line are those that are seen between dots in it. -/
theorem dotted_unique {before' behind' major major' minor minor' patch patch' : List Char}
    (isMajor : IsNumber major) (isMinor : IsNumber minor) (isPatch : IsNumber patch)
    (isMajor' : IsNumber major') (isMinor' : IsNumber minor') (isPatch' : IsNumber patch')
    (front : ∀ c ∈ before, isDecimalDigit c = false)
    (back : ∀ c ∈ behind, isDecimalDigit c = false)
    (front' : NoDigit before'.getLast?) (back' : NoDigit behind'.head?)
    (same : before ++ dotted major minor patch ++ behind =
      before' ++ dotted major' minor' patch' ++ behind') :
    major = major' ∧ minor = minor' ∧ patch = patch' := by
  have runs := digitRuns_dotted isMajor isMinor isPatch
    (fun c last => front c (List.mem_of_getLast? last))
    (fun c head => back c (List.mem_of_mem_head? head))
  rw [same, digitRuns_dotted isMajor' isMinor' isPatch' front' back', digitRuns_of_none front,
    digitRuns_of_none back, List.nil_append, List.append_nil] at runs
  have counts := congrArg List.length runs
  simp only [List.length_append, List.length_cons, List.length_nil] at counts
  have first : digitRuns before' = [] := List.length_eq_zero_iff.mp (by omega)
  have last : digitRuns behind' = [] := List.length_eq_zero_iff.mp (by omega)
  rw [first, last] at runs
  cases runs
  exact ⟨rfl, rfl, rfl⟩

end Text

/-- Numbers in decimal are numbers. -/
theorem Number.isNumber_natText (n : Nat) : Text.IsNumber (Number.natText n).toList := by
  rw [natText, String.toList_ofList]
  refine ⟨fun empty => ?_, fun c member => ?_⟩
  · have positive := Nat.length_toDigits_pos (b := 10) (n := n)
    rw [empty] at positive
    exact Nat.lt_irrefl 0 positive
  · have digit := isDigit_of_mem_toDigits member
    unfold isDigit at digit
    rw [Bool.and_eq_true, decide_eq_true_iff, decide_eq_true_iff] at digit
    exact Text.inRanges_iff.mpr ⟨(48, 57), by decide, digit.1, digit.2⟩

end QualityGates
