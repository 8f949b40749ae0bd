import Mathlib.Data.List.Lex
import QualityGates.Proofs.Path.Child

/-!
# The order of paths

Paths are sorted by their components. The comparison is total and transitive, and two paths of which
neither comes after the other have the same components, so a sorted list of paths with different
components is determined by its members, and it is sorted strictly.
-/

namespace QualityGates.Path

/-- Texts are compared character by character. -/
theorem compareChars_eq (as bs : List Char) :
    compareChars as bs = List.compareLex compare as bs := by
  induction as generalizing bs with
  | nil => cases bs with
    | nil => rw [compareChars, List.compareLex_nil_nil]
    | cons b bs => rw [compareChars, List.compareLex_nil_cons]
  | cons a as ih => cases bs with
    | nil => rw [compareChars, List.compareLex_cons_nil]
    | cons b bs => rw [compareChars, List.compareLex_cons_cons, ih]

/-- The comparison of two names. -/
def compareName (a b : String) : Ordering :=
  List.compareLex compare a.toList b.toList

/-- Lists of names are compared name by name. -/
theorem compareNames_eq (as bs : List String) :
    compareNames as bs = List.compareLex compareName as bs := by
  induction as generalizing bs with
  | nil => cases bs with
    | nil => rw [compareNames, List.compareLex_nil_nil]
    | cons b bs => rw [compareNames, List.compareLex_nil_cons]
  | cons a as ih => cases bs with
    | nil => rw [compareNames, List.compareLex_cons_nil]
    | cons b bs => rw [compareNames, List.compareLex_cons_cons, ih, compareChars_eq, compareName]

instance : Std.OrientedCmp compareName where
  eq_swap := by
    unfold compareName
    exact Std.OrientedCmp.eq_swap

instance : Std.TransCmp compareName where
  isLE_trans := by
    unfold compareName
    exact Std.TransCmp.isLE_trans

instance : Std.LawfulEqCmp compareName where
  compare_self := by
    unfold compareName
    exact Std.ReflCmp.compare_self
  eq_of_compare := by
    unfold compareName
    exact fun same => String.toList_inj.mp (Std.LawfulEqCmp.eq_of_compare same)

/-- A path that is not after another one has components that are at most those of the other one. -/
theorem notAfter_iff {p q : Path} :
    notAfter p q = true ↔ (List.compareLex compareName p.components q.components).isLE = true := by
  unfold notAfter
  rw [compareNames_eq]
  cases List.compareLex compareName p.components q.components <;> decide

/-- Of two paths, one is not after the other. -/
theorem notAfter_total (p q : Path) : (notAfter p q || notAfter q p) = true := by
  have swapped : List.compareLex compareName q.components p.components =
      (List.compareLex compareName p.components q.components).swap := Std.OrientedCmp.eq_swap
  rw [Bool.or_eq_true, notAfter_iff, notAfter_iff, swapped]
  cases List.compareLex compareName p.components q.components <;> decide

/-- The order of paths is transitive. -/
theorem notAfter_trans (p q r : Path) (first : notAfter p q = true) (second : notAfter q r = true) :
    notAfter p r = true := by
  rw [notAfter_iff] at *
  exact Std.TransCmp.isLE_trans first second

/-- Two paths of which neither is after the other have the same components. -/
theorem components_eq_of_notAfter {p q : Path} (first : notAfter p q = true)
    (second : notAfter q p = true) : p.components = q.components := by
  rw [notAfter_iff] at *
  exact Std.LawfulEqCmp.eq_of_compare (Std.OrientedCmp.isLE_antisymm first second)

/-- Sorting paths with different components gives a list that only depends on its members. -/
theorem mergeSort_eq_of_perm {ps qs : List Path} (perm : ps.Perm qs)
    (different : ∀ p ∈ ps, ∀ q ∈ ps, p.components = q.components → p = q) :
    ps.mergeSort notAfter = qs.mergeSort notAfter := by
  have together : (ps.mergeSort notAfter).Perm (qs.mergeSort notAfter) :=
    (List.mergeSort_perm ps notAfter).trans (perm.trans (List.mergeSort_perm qs notAfter).symm)
  apply List.Perm.eq_of_pairwise _ (List.pairwise_mergeSort notAfter_trans notAfter_total ps)
    (List.pairwise_mergeSort notAfter_trans notAfter_total qs) together
  intro p q pIn qIn first second
  have pThere : p ∈ ps := List.mem_mergeSort.mp pIn
  have qThere : q ∈ ps := perm.mem_iff.mpr (List.mem_mergeSort.mp qIn)
  exact different p pThere q qThere (components_eq_of_notAfter first second)

/-! ## The strict order -/

/-- A name before another one: the first character that differs has a lower code point, or the
name is the beginning of the other one. -/
def NameBefore (a b : String) : Prop :=
  List.Lex (fun c d : Char => c.toNat < d.toNat) a.toList b.toList

/-- A path before another one: the first component that differs is before that of the other one, or
the components are the beginning of those of the other one. -/
def Before (p q : Path) : Prop :=
  List.Lex NameBefore p.components q.components

/-- A lexicographic comparison decides the lexicographic order. -/
theorem compareLex_eq_lt_iff {α : Type} {cmp : α → α → Ordering} [Std.LawfulEqCmp cmp]
    {before : α → α → Prop} (decides : ∀ a b, cmp a b = .lt ↔ before a b) {as bs : List α} :
    List.compareLex cmp as bs = .lt ↔ List.Lex before as bs := by
  induction as generalizing bs with
  | nil => cases bs with
    | nil =>
      rw [List.compareLex_nil_nil]
      exact ⟨fun h => (nomatch h), fun h => (nomatch h)⟩
    | cons b bs =>
      rw [List.compareLex_nil_cons]
      exact ⟨fun _ => .nil, fun _ => rfl⟩
  | cons a as ih => cases bs with
    | nil =>
      rw [List.compareLex_cons_nil]
      exact ⟨fun h => (nomatch h), fun h => (nomatch h)⟩
    | cons b bs =>
      rw [List.compareLex_cons_cons, Ordering.then_eq_lt, decides, ih,
        Std.LawfulEqCmp.compare_eq_iff_eq]
      constructor
      · rintro (first | ⟨rfl, rest⟩)
        · exact .rel first
        · exact .cons rest
      · intro h
        cases h with
        | rel first => exact .inl first
        | cons rest => exact .inr ⟨rfl, rest⟩

/-- The comparison of characters decides the order of code points. -/
theorem compareChar_eq_lt_iff (c d : Char) : compare c d = .lt ↔ c.toNat < d.toNat :=
  compareOfLessAndEq_eq_lt

/-- The comparison of names decides their order. -/
theorem compareName_eq_lt_iff (a b : String) : compareName a b = .lt ↔ NameBefore a b :=
  compareLex_eq_lt_iff compareChar_eq_lt_iff

/-- The comparison of components decides the order of paths. -/
theorem before_iff {p q : Path} :
    Before p q ↔ List.compareLex compareName p.components q.components = .lt :=
  (compareLex_eq_lt_iff compareName_eq_lt_iff).symm

/-- A path that is not after one with other components is before it. -/
theorem before_of_notAfter {p q : Path} (ordered : notAfter p q = true)
    (differ : p.components ≠ q.components) : Before p q := by
  rw [notAfter_iff] at ordered
  rw [before_iff]
  cases compared : List.compareLex compareName p.components q.components with
  | lt => rfl
  | eq => exact absurd (Std.LawfulEqCmp.eq_of_compare compared) differ
  | gt => rw [compared] at ordered; cases ordered

/-- Of two paths at most one is before the other. -/
theorem Before.asymm {p q : Path} (before : Before p q) : ¬ Before q p := by
  have swapped : List.compareLex compareName q.components p.components =
      (List.compareLex compareName p.components q.components).swap := Std.OrientedCmp.eq_swap
  rw [before_iff] at *
  rw [swapped, before]
  exact nofun

/-- Paths with different components are sorted strictly. -/
theorem pairwise_before_mergeSort {ps : List Path} (nodup : ps.Nodup)
    (different : ∀ p ∈ ps, ∀ q ∈ ps, p.components = q.components → p = q) :
    (ps.mergeSort notAfter).Pairwise Before := by
  have sorted := List.pairwise_mergeSort notAfter_trans notAfter_total ps
  have once : (ps.mergeSort notAfter).Nodup := (List.mergeSort_perm ps notAfter).nodup_iff.mpr nodup
  refine (sorted.and once).imp_of_mem fun pIn qIn ordered => ?_
  refine before_of_notAfter ordered.1 fun same => ordered.2 ?_
  exact different _ (List.mem_mergeSort.mp pIn) _ (List.mem_mergeSort.mp qIn) same

/-- In a sorted list, a path that is before another one stands before it. -/
theorem sublist_of_before {ps : List Path} (sorted : ps.Pairwise Before) {p q : Path}
    (pIn : p ∈ ps) (qIn : q ∈ ps) (before : Before p q) : [p, q].Sublist ps := by
  induction sorted with
  | nil => cases pIn
  | @cons first rest above _ ih =>
    rcases List.mem_cons.mp qIn with rfl | qRest
    · rcases List.mem_cons.mp pIn with rfl | pRest
      · exact absurd before before.asymm
      · exact absurd (above p pRest) before.asymm
    · rcases List.mem_cons.mp pIn with rfl | pRest
      · exact (List.singleton_sublist.mpr qRest).cons_cons p
      · exact (ih pRest qRest).cons first

/-- A name that goes on is behind the name that it starts with. -/
theorem nameBefore_append {name tail : String} (longer : tail ≠ "") :
    NameBefore name (name ++ tail) := by
  unfold NameBefore
  have behind : List.Lex (fun c d : Char => c.toNat < d.toNat) [] tail.toList := by
    cases cs : tail.toList with
    | nil => exact absurd (String.toList_inj.mp cs) longer
    | cons c cs => exact .nil
  rw [String.toList_append]
  simpa only [List.append_nil] using List.Lex.append_left _ behind name.toList

/-- Everything below a name of a directory is before what a longer name leads to, although a
separator may come after the characters that the longer name goes on with. -/
theorem before_of_longer_name {p : Path} {name tail : String} {below others : List String}
    (present : p.text.toList ≠ []) (longer : tail ≠ "")
    (proper : ∀ part ∈ name :: below, IsProper part)
    (proper' : ∀ part ∈ (name ++ tail) :: others, IsProper part) :
    Before ((name :: below).foldl child p) (((name ++ tail) :: others).foldl child p) := by
  unfold Before
  rw [components_foldl_child proper present, components_foldl_child proper' present]
  exact List.Lex.append_left _ (.rel (nameBefore_append longer)) p.components

end QualityGates.Path
