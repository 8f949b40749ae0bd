import QualityGates.Coverage.Summary
import QualityGates.Proofs.Coverage.Percent
import QualityGates.Proofs.Coverage.Ranking
import QualityGates.Proofs.Text.DigitRuns

/-!
# Ties of the ranking

A row of the table shows what was covered, but classes are not ranked by it. Equally ranked classes
agree in everything else, so a table depends on the order in which the classes are given exactly
where two of them are equally ranked and were covered differently. Their percentages tie such
classes where nothing was missed, and never where they are resolved.
-/

namespace QualityGates

/-! ## Reading a table back -/

namespace Number

open Text (digitRuns)

/-- A number in a column ends at the next blank. -/
theorem digitRuns_padLeft (width n : Nat) (rest : List Char) :
    digitRuns ((padLeft width (natText n)).toList ++ ' ' :: rest) =
      (natText n).toList :: digitRuns (' ' :: rest) := by
  have blank : Text.isDecimalDigit ' ' = false := by decide
  have blanks : ∀ c ∈ List.replicate (width - (natText n).length) ' ',
      Text.isDecimalDigit c = false := by
    intro c member
    rw [List.eq_of_mem_replicate member, blank]
  have front : Text.NoDigit (List.replicate (width - (natText n).length) ' ').getLast? :=
    fun c last => blanks c (List.mem_of_getLast? last)
  have back : Text.NoDigit (' ' :: rest).head? := by
    intro c first
    obtain rfl := Option.some.inj first
    exact blank
  unfold padLeft
  rw [String.toList_append, String.toList_ofList,
    Text.digitRuns_split (isNumber_natText n) front back, Text.digitRuns_of_none blanks,
    List.nil_append]

/-- A number in a column is told by its text. -/
theorem padLeft_natText_inj {width n n' : Nat} {rest rest' : List Char}
    (same : (padLeft width (natText n)).toList ++ ' ' :: rest =
      (padLeft width (natText n')).toList ++ ' ' :: rest') : n = n' := by
  have runs := congrArg digitRuns same
  rw [digitRuns_padLeft, digitRuns_padLeft] at runs
  exact natText_inj (List.cons.inj runs).1

end Number

namespace Coverage

open ClassCoverage

variable {a b : ClassCoverage} {classes classes' : List ClassCoverage}

/-- A class with nothing said of what was covered. -/
def uncounted (c : ClassCoverage) : ClassCoverage :=
  { c with covered := 0 }

/-- The lines of rows. -/
def rowLines (rank : Nat) (classes : List ClassCoverage) : List Char :=
  (rows rank classes).flatMap fun row => row.toList ++ ['\n']

/-- A row tells what was covered. -/
theorem row_inj {rank : Nat} {rest rest' : List Char} (alike : uncounted a = uncounted b)
    (same : (row rank a).toList ++ '\n' :: rest = (row rank b).toList ++ '\n' :: rest') :
    a = b ∧ rest = rest' := by
  obtain ⟨name, missed, covered, percentBits⟩ := a
  obtain ⟨name', missed', covered', percentBits'⟩ := b
  injection alike with sameName sameMissed _ samePercent
  subst sameName sameMissed samePercent
  unfold row ClassCoverage.percent at same
  simp only [String.toList_append, List.append_assoc, List.append_cancel_left_eq] at same
  have sameCovered : covered = covered' := UInt64.toNat_inj.mp (Number.padLeft_natText_inj same)
  subst sameCovered
  simp only [List.append_cancel_left_eq, List.cons.injEq, true_and] at same
  exact ⟨rfl, same⟩

/-- The lines of rows tell the classes, as long as all but what was covered is known. -/
theorem rowLines_inj {rank : Nat} (alike : classes.map uncounted = classes'.map uncounted)
    (same : rowLines rank classes = rowLines rank classes') : classes = classes' := by
  induction classes generalizing classes' rank with
  | nil =>
    cases classes' with
    | nil => rfl
    | cons b classes' => cases alike
  | cons a classes ih =>
    cases classes' with
    | nil => cases alike
    | cons b classes' =>
      rw [List.map_cons, List.map_cons] at alike
      obtain ⟨alikeFirst, alikeRest⟩ := List.cons.inj alike
      unfold rowLines rows at same
      simp only [List.flatMap_cons, List.append_assoc, List.singleton_append] at same
      obtain ⟨rfl, sameRest⟩ := row_inj alikeFirst same
      rw [ih alikeRest sameRest]

/-- The two first lines of a table. -/
def tableFront (classes : List ClassCoverage) : String :=
  "Found " ++ Number.natText classes.length ++ " classes" ++ "\n" ++
    ("Rank  Coverage%  Missed Covered  Class" ++ "\n")

/-- A table is its two first lines and the lines of its rows. -/
theorem toList_table (limit : Nat) (classes : List ClassCoverage) :
    (table limit classes).toList =
      (tableFront classes).toList ++ rowLines 1 (classes.take limit) := by
  have feed : "\n".toList = ['\n'] := rfl
  unfold table tableLines tableFront rowLines
  simp only [String.toList_join, List.flatMap_map, List.cons_append, List.nil_append,
    List.flatMap_cons, String.toList_append, List.append_assoc, feed]

/-- A table that shows all classes tells them, as long as all but what was covered is known. -/
theorem table_inj {limit : Nat} (all : classes.length ≤ limit)
    (alike : classes.map uncounted = classes'.map uncounted)
    (same : table limit classes = table limit classes') : classes = classes' := by
  have length : classes.length = classes'.length := by
    have lengths := congrArg List.length alike
    rwa [List.length_map, List.length_map] at lengths
  have lines := congrArg String.toList same
  rw [toList_table, toList_table, tableFront, tableFront, length, List.append_cancel_left_eq,
    List.take_of_length_le all, List.take_of_length_le (length ▸ all)] at lines
  exact rowLines_inj alike lines

/-! ## Equally ranked classes -/

/-- Classes that are counted are equally ranked by their names, missed lines and percentages. -/
theorem ofCounts_tied_iff {name name' : String} {missed missed' covered covered' : UInt64} :
    (ofCounts name missed covered).rankOrder (ofCounts name' missed' covered') = .eq ↔
      name = name' ∧ missed = missed' ∧
        coveragePercent missed covered = coveragePercent missed' covered' := by
  rw [rankOrder_eq_eq_iff]
  constructor
  · intro ⟨samePercent, sameMissed, sameName⟩
    exact ⟨sameName, sameMissed, Number.eq_of_toBits_eq samePercent⟩
  · intro ⟨sameName, sameMissed, samePercent⟩
    exact ⟨congrArg Float.toBits samePercent, sameMissed, sameName⟩

/-- All but what was covered is ranked alike, in whatever order the classes are given. -/
theorem uncounted_ranked_of_perm (perm : classes'.Perm classes) :
    (ranked classes').map uncounted = (ranked classes).map uncounted := by
  refine map_ranked_of_perm (fun a b => rfl) (fun a _ b _ tied => ?_) perm
  obtain ⟨samePercent, sameMissed, sameName⟩ := rankOrder_eq_eq_iff.mp tied
  unfold uncounted
  rw [samePercent, sameMissed, sameName]

/-- Equally ranked classes of which as much was covered are the same. -/
theorem eq_of_tied (tied : a.rankOrder b = .eq) (sameCovered : a.covered = b.covered) : a = b := by
  obtain ⟨samePercent, sameMissed, sameName⟩ := rankOrder_eq_eq_iff.mp tied
  cases a
  cases b
  exact congr (congr (congr (congrArg mk sameName) sameMissed) sameCovered) samePercent

/-- Of equally ranked classes, the one that is given first is ranked first. -/
theorem head_of_ranked_eq {rest rest' : List ClassCoverage} (tied : b.rankOrder a = .eq)
    (same : ranked (a :: rest) = ranked (b :: rest')) : a = b := by
  have firstOnes := filter_ranked a (a :: rest)
  have self : a.rankOrder a = .eq := Std.ReflCmp.compare_self
  rw [same, filter_ranked, List.filter_cons_of_pos (by rw [tied]; rfl),
    List.filter_cons_of_pos (by rw [self]; rfl)] at firstOnes
  exact (List.cons.inj firstOnes).1.symm

/-- Equally ranked classes are the same where a table does not depend on the order in which the
classes are given. -/
theorem eq_of_table_eq
    (same : ∀ classes', classes'.Perm classes → ∀ limit,
      table limit (ranked classes') = table limit (ranked classes))
    (aIn : a ∈ classes) (bIn : b ∈ classes) (tied : a.rankOrder b = .eq) : a = b := by
  have sameRanking (classes' : List ClassCoverage) (perm : classes'.Perm classes) :
      ranked classes' = ranked classes :=
    table_inj (Nat.le_refl _) (uncounted_ranked_of_perm perm) (same classes' perm _)
  have aFirst := sameRanking (a :: classes.erase a) (List.perm_cons_erase aIn).symm
  have bFirst := sameRanking (b :: classes.erase b) (List.perm_cons_erase bIn).symm
  exact head_of_ranked_eq (tied_symm tied) (aFirst.trans bFirst.symm)

/-- Classes are equally ranked exactly where their names, their missed lines and their percentages
are the same. The percentage is the same where nothing was missed, so such classes are told apart by
their names alone, and it tells what was covered where it is resolved. Whatever the order is in
which classes are given, all but what was covered is ranked alike, and all tables are the same
exactly where as much was covered of equally ranked classes. -/
theorem tables_agree_unless_tied :
    (∀ name name' missed missed' covered covered',
      (ofCounts name missed covered).rankOrder (ofCounts name' missed' covered') = .eq ↔
        name = name' ∧ missed = missed' ∧
          coveragePercent missed covered = coveragePercent missed' covered') ∧
    (∀ covered covered', coveragePercent 0 covered = coveragePercent 0 covered') ∧
    (∀ missed covered covered', IsResolved missed covered → IsResolved missed covered' →
      (coveragePercent missed covered = coveragePercent missed covered' ↔ covered = covered')) ∧
    ∀ classes,
      (∀ classes', classes'.Perm classes →
        (ranked classes').map uncounted = (ranked classes).map uncounted) ∧
      ((∀ classes', classes'.Perm classes → ∀ limit,
          table limit (ranked classes') = table limit (ranked classes)) ↔
        ∀ a ∈ classes, ∀ b ∈ classes, a.rankOrder b = .eq → a.covered = b.covered) := by
  refine ⟨fun _ _ _ _ _ _ => ofCounts_tied_iff, fun covered covered' => ?_,
    fun _ _ _ resolved resolved' => percent_inj resolved resolved',
    fun classes => ⟨fun classes' perm => uncounted_ranked_of_perm perm, ?_, ?_⟩⟩
  · rw [percent_of_none_missed, percent_of_none_missed]
  · intro same a aIn b bIn tied
    rw [eq_of_table_eq same aIn bIn tied]
  · intro sameCovered classes' perm limit
    have untied (a : ClassCoverage) (aIn : a ∈ classes) (b : ClassCoverage) (bIn : b ∈ classes)
        (tied : a.rankOrder b = .eq) : a = b :=
      eq_of_tied tied (sameCovered a aIn b bIn tied)
    rw [ranked_eq_of_perm untied perm]

/-- A class that is counted twice with missed lines, and one that misses nothing. -/
def repeatedClasses : List ClassCoverage :=
  [ofCounts "a" 1 1, ofCounts "a" 1 2, ofCounts "b" 0 3]

/-- The tables of the repeated classes are the same the other way round. -/
theorem repeatedClasses_table :
    (IsResolved 1 1 ∧ IsResolved 1 2) ∧ repeatedClasses.reverse.Perm repeatedClasses ∧
      ∀ limit, table limit (ranked repeatedClasses.reverse) =
        table limit (ranked repeatedClasses) := by
  have resolved : IsResolved 1 1 := by decide
  have resolved' : IsResolved 1 2 := by decide
  have perm := List.reverse_perm repeatedClasses
  obtain ⟨tied_iff, -, inj, tables⟩ := tables_agree_unless_tied
  have apart : ¬ coveragePercent 1 1 = coveragePercent 1 2 := by
    rw [inj 1 1 2 resolved resolved']
    decide
  refine ⟨⟨resolved, resolved'⟩, perm, (tables repeatedClasses).2.mpr ?_ _ perm⟩
  unfold repeatedClasses
  simp only [List.forall_mem_cons, tied_iff]
  simp [ofCounts, apart, Ne.symm apart]

/-- Two counts of a class that misses nothing are equally ranked, so the table shows them in the
order in which they are given. -/
theorem tied_counts_swap_rows : (ofCounts "a" 0 1).rankOrder (ofCounts "a" 0 2) = .eq ∧
    (ofCounts "a" 0 1).covered ≠ (ofCounts "a" 0 2).covered ∧
    [ofCounts "a" 0 2, ofCounts "a" 0 1].Perm [ofCounts "a" 0 1, ofCounts "a" 0 2] ∧
    table 20 (ranked [ofCounts "a" 0 2, ofCounts "a" 0 1]) ≠
      table 20 (ranked [ofCounts "a" 0 1, ofCounts "a" 0 2]) := by
  have tied (covered covered' : UInt64) :
      (ofCounts "a" 0 covered).rankOrder (ofCounts "a" 0 covered') = .eq := by
    rw [ofCounts_tied_iff, percent_of_none_missed, percent_of_none_missed]
    exact ⟨rfl, rfl, rfl⟩
  have differ : (ofCounts "a" 0 1).covered ≠ (ofCounts "a" 0 2).covered := by decide
  refine ⟨tied 1 2, differ, List.Perm.swap _ _ _, fun same => ?_⟩
  have perm : [ofCounts "a" 0 2, ofCounts "a" 0 1].Perm [ofCounts "a" 0 1, ofCounts "a" 0 2] :=
    List.Perm.swap _ _ _
  have shown : (ranked [ofCounts "a" 0 2, ofCounts "a" 0 1]).length ≤ 20 := by
    rw [(ranked_perm _).length_eq]
    decide
  have sameRanking := table_inj shown (uncounted_ranked_of_perm perm) same
  exact differ (congrArg ClassCoverage.covered (head_of_ranked_eq (tied 1 2) sameRanking)).symm

end Coverage
end QualityGates
