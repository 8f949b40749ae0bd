import QualityGates.Coverage.Summary
import QualityGates.Proofs.Number.Digits
import QualityGates.Proofs.Text.Separated

/-!
# Rows of the table

A row shows its number, the percentage and the counts of a class in columns with blanks between
them, and then the name of the class. The rows of a list of classes are numbered one after the
other.
-/

namespace QualityGates

namespace Text

/-- The words between blanks. -/
def words (cs : List Char) : List (List Char) :=
  (pieces ' ' cs).filter fun piece => !piece.isEmpty

/-- A blank before other words is none. -/
theorem words_blank (cs : List Char) : words (' ' :: cs) = words cs := by
  unfold words
  rw [pieces_cons, if_pos rfl]
  rfl

/-- Blanks before other words are none. -/
theorem words_blanks (n : Nat) (cs : List Char) :
    words (List.replicate n ' ' ++ cs) = words cs := by
  induction n with
  | zero => rfl
  | succ n ih => rw [List.replicate_succ, List.cons_append, words_blank, ih]

/-- A word ends at the first blank behind it. -/
theorem words_word {word : List Char} (present : word ≠ []) (solid : ' ' ∉ word)
    (cs : List Char) : words (word ++ ' ' :: cs) = word :: words cs := by
  unfold words
  rw [pieces_append_mark, pieces_of_not_mem solid, List.filter_append, List.filter_cons_of_pos]
  · rfl
  · cases word with
    | nil => exact absurd rfl present
    | cons c word => rfl

end Text

namespace Coverage

open Number (natText fixedText padLeft)
open Text (words words_blank words_blanks words_word)

/-! ## What a row shows -/

/-- A text at the right edge of a column is a word, together with what stands right behind it. -/
theorem words_padLeft {width : Nat} {s : String} {mark : List Char}
    (present : s.toList ++ mark ≠ []) (solid : ' ' ∉ s.toList ++ mark) (cs : List Char) :
    words ((padLeft width s).toList ++ (mark ++ ' ' :: cs)) = (s.toList ++ mark) :: words cs := by
  unfold padLeft
  rw [String.toList_append, String.toList_ofList, List.append_assoc, words_blanks,
    ← List.append_assoc, words_word present solid]

/-- What a line shows of a class: with blanks between them, a number, the percentage and the counts
of the class, and then its name. -/
def ShowsClass (rank : Nat) (c : ClassCoverage) (line : String) : Prop :=
  ∃ columns, line.toList = columns ++ c.name.toList ∧
    words columns =
      [(natText rank).toList ++ ['.'], (fixedText 2 c.percent).toList ++ ['%'],
        (natText c.missed.toNat).toList, (natText c.covered.toNat).toList]

/-- A row shows its class. -/
theorem showsClass_row (rank : Nat) (c : ClassCoverage) : ShowsClass rank c (row rank c) := by
  have natSolid (n : Nat) : ' ' ∉ (natText n).toList := by
    intro blank
    rw [natText, String.toList_ofList] at blank
    exact absurd (Number.isDigit_of_mem_toDigits blank) (by decide)
  have fixedSolid : ' ' ∉ (fixedText 2 c.percent).toList := by
    intro blank
    exact absurd (Number.mem_fixedText blank) (by decide)
  have natPresent (n : Nat) : (natText n).toList ≠ [] := by
    rw [natText, String.toList_ofList]
    exact Nat.toDigits_ne_nil
  have numbered : ' ' ∉ (natText rank).toList ++ ['.'] := by
    rw [List.mem_append, not_or]
    exact ⟨natSolid rank, by decide⟩
  have share : ' ' ∉ (fixedText 2 c.percent).toList ++ ['%'] := by
    rw [List.mem_append, not_or]
    exact ⟨fixedSolid, by decide⟩
  refine ⟨(padLeft 2 (natText rank)).toList ++ (['.'] ++ ' ' :: ' ' :: ' ' ::
    ((padLeft 6 (fixedText 2 c.percent)).toList ++ (['%'] ++ ' ' :: ' ' :: ' ' ::
      ((padLeft 6 (natText c.missed.toNat)).toList ++ ([] ++ ' ' ::
        ((padLeft 7 (natText c.covered.toNat)).toList ++ ([] ++ ' ' :: [' ']))))))), ?_, ?_⟩
  · have dot : ".   ".toList = ['.', ' ', ' ', ' '] := rfl
    have percent : "%   ".toList = ['%', ' ', ' ', ' '] := rfl
    have gap : " ".toList = [' '] := rfl
    have wideGap : "  ".toList = [' ', ' '] := rfl
    unfold row
    simp only [String.toList_append, dot, percent, gap, wideGap, List.append_assoc,
      List.cons_append, List.nil_append]
  · have missed := natPresent c.missed.toNat
    have covered := natPresent c.covered.toNat
    rw [← List.append_nil (natText _).toList] at missed covered
    rw [words_padLeft (List.append_ne_nil_of_right_ne_nil _ (List.cons_ne_nil _ _)) numbered,
      words_blank, words_blank,
      words_padLeft (List.append_ne_nil_of_right_ne_nil _ (List.cons_ne_nil _ _)) share,
      words_blank, words_blank, words_padLeft missed (by rw [List.append_nil]; exact natSolid _),
      words_padLeft covered (by rw [List.append_nil]; exact natSolid _), words_blank,
      List.append_nil, List.append_nil]
    rfl
/-! ## Rows one after the other -/

/-- Rows are numbered from the first rank on. -/
theorem getElem?_rows (rank : Nat) (classes : List ClassCoverage) (i : Nat) :
    (rows rank classes)[i]? = classes[i]?.map (row (rank + i)) := by
  induction classes generalizing rank i with
  | nil => rfl
  | cons c rest ih =>
    cases i with
    | zero => rfl
    | succ i =>
      rw [rows, List.getElem?_cons_succ, List.getElem?_cons_succ, ih, Nat.add_assoc,
        Nat.add_comm 1]

/-- There is a row for each class. -/
theorem length_rows (rank : Nat) (classes : List ClassCoverage) :
    (rows rank classes).length = classes.length := by
  induction classes generalizing rank with
  | nil => rfl
  | cons c rest ih => rw [rows, List.length_cons, List.length_cons, ih]

/-- The rows of more classes are put behind. -/
theorem rows_append (rank : Nat) (front back : List ClassCoverage) :
    rows rank (front ++ back) = rows rank front ++ rows (rank + front.length) back := by
  induction front generalizing rank with
  | nil => rfl
  | cons c rest ih =>
    rw [List.cons_append, rows, rows, ih, List.cons_append, List.length_cons, Nat.add_assoc,
      Nat.add_comm 1]

end Coverage
end QualityGates
