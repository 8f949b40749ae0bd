import Mathlib.Data.List.Nodup
import Mathlib.Tactic.Ring
import QualityGates.Coverage.Class
import QualityGates.Proofs.Path.Order

/-!
# The ranking of classes

Classes are compared by their percentage, then by what is missed, then by name. The comparison is a
total preorder on all classes, whatever the bits of their percentages are. Ranking is a stable sort
by it, and it depends on the order of its input only where two different classes are equally ranked.
-/

namespace QualityGates.ClassCoverage

/-! ## The order of percentages -/

/-- Whether the sign bit of a float is set. -/
def IsSigned (bits : UInt64) : Prop :=
  2 ^ 63 ≤ bits.toNat

/-- The order of all floats by their bits, those that are not numbers included: a sign comes first,
and signed floats are in the reverse order of their magnitudes. -/
inductive BitsBefore (x y : UInt64) : Prop where
  | sign (signed : IsSigned x) (unsigned : ¬ IsSigned y)
  | unsigned (left : ¬ IsSigned x) (right : ¬ IsSigned y) (less : x < y)
  | signed (left : IsSigned x) (right : IsSigned y) (more : y < x)

variable {x y : UInt64}

/-- The key of unsigned bits are the bits. -/
theorem floatKey_unsigned (unsigned : ¬ IsSigned x) : floatKey x = x.toNat := by
  have low : x.toNat < Nat.pow 2 63 := Nat.lt_of_not_le unsigned
  rw [floatKey, if_pos low]

/-- The key of signed bits is negative and falls with them. -/
theorem floatKey_signed (signed : IsSigned x) :
    floatKey x = (2 ^ 63 : Int) - 1 - (x.toNat : Int) := by
  have high : ¬ x.toNat < Nat.pow 2 63 := Nat.not_lt.mpr signed
  rw [floatKey, if_neg high]
  rfl

/-- Keys are in the order of the bits. -/
theorem floatKey_lt_iff : floatKey x < floatKey y ↔ BitsBefore x y := by
  have bound := x.toNat_lt
  have bound' := y.toNat_lt
  constructor
  · intro less
    by_cases signed : IsSigned x <;> by_cases signed' : IsSigned y
    · rw [floatKey_signed signed, floatKey_signed signed'] at less
      exact .signed signed signed' (UInt64.lt_iff_toNat_lt.mpr (by omega))
    · exact .sign signed signed'
    · -- The key of signed bits is negative, so nothing unsigned is below it.
      rw [floatKey_unsigned signed, floatKey_signed signed'] at less
      unfold IsSigned at signed'
      omega
    · rw [floatKey_unsigned signed, floatKey_unsigned signed'] at less
      exact .unsigned signed signed' (UInt64.lt_iff_toNat_lt.mpr (by omega))
  · intro before
    cases before with
    | sign signed unsigned =>
      rw [floatKey_signed signed, floatKey_unsigned unsigned]
      unfold IsSigned at signed
      omega
    | unsigned left right less =>
      rw [floatKey_unsigned left, floatKey_unsigned right]
      rw [UInt64.lt_iff_toNat_lt] at less
      omega
    | signed left right more =>
      rw [floatKey_signed left, floatKey_signed right]
      rw [UInt64.lt_iff_toNat_lt] at more
      omega

/-- Different bits have different keys. -/
theorem floatKey_inj : floatKey x = floatKey y ↔ x = y := by
  refine ⟨fun same => ?_, congrArg floatKey⟩
  have bound := x.toNat_lt
  have bound' := y.toNat_lt
  rw [← UInt64.toNat_inj]
  by_cases signed : IsSigned x <;> by_cases signed' : IsSigned y
  · rw [floatKey_signed signed, floatKey_signed signed'] at same
    omega
  · rw [floatKey_signed signed, floatKey_unsigned signed'] at same
    unfold IsSigned at signed
    omega
  · rw [floatKey_unsigned signed, floatKey_signed signed'] at same
    unfold IsSigned at signed'
    omega
  · rw [floatKey_unsigned signed, floatKey_unsigned signed'] at same
    omega

/-! ## The order of classes -/

variable {a b c : ClassCoverage} {classes classes' : List ClassCoverage}

/-- The order of classes as a comparison of one key after the other. -/
theorem rankOrder_eq : rankOrder = compareLex (compareOn fun c => floatKey c.percentBits)
    (compareLex (fun a b => compareOn (fun c : ClassCoverage => c.missed) b a)
      (compareOn fun c => c.name.toList)) := by
  funext a b
  unfold rankOrder
  rw [Path.compareChars_eq]
  rfl

instance : Std.TransCmp rankOrder := by
  rw [rankOrder_eq]
  infer_instance

/-- What it means that a class is ranked before another one: it is covered less, or as much with
more missed lines, or it has the name that comes first. -/
inductive RankedBefore (a b : ClassCoverage) : Prop where
  | percent (less : BitsBefore a.percentBits b.percentBits)
  | missed (samePercent : a.percentBits = b.percentBits) (more : b.missed < a.missed)
  | name (samePercent : a.percentBits = b.percentBits) (sameMissed : a.missed = b.missed)
    (before : Path.NameBefore a.name b.name)

/-- The comparison decides which class is ranked before the other. -/
theorem rankOrder_eq_lt_iff : a.rankOrder b = .lt ↔ RankedBefore a b := by
  have names : Path.compareChars a.name.toList b.name.toList = .lt ↔
      Path.NameBefore a.name b.name := by
    rw [Path.compareChars_eq]
    exact Path.compareName_eq_lt_iff a.name b.name
  have fewer : compare b.missed a.missed = .lt ↔ b.missed < a.missed := compareOfLessAndEq_eq_lt
  unfold rankOrder
  rw [Ordering.then_eq_lt, Ordering.then_eq_lt, Int.compare_eq_lt, Std.compare_eq_iff_eq,
    Std.compare_eq_iff_eq, floatKey_lt_iff, floatKey_inj, names, fewer]
  constructor
  · rintro (less | ⟨samePercent, more | ⟨sameMissed, before⟩⟩)
    · exact .percent less
    · exact .missed samePercent more
    · exact .name samePercent sameMissed.symm before
  · intro before
    cases before with
    | percent less => exact .inl less
    | missed samePercent more => exact .inr ⟨samePercent, .inl more⟩
    | name samePercent sameMissed before =>
      exact .inr ⟨samePercent, .inr ⟨sameMissed.symm, before⟩⟩

/-- Classes are equally ranked when they have the same percentage, as many missed lines and the same
name. -/
theorem rankOrder_eq_eq_iff : a.rankOrder b = .eq ↔
    a.percentBits = b.percentBits ∧ a.missed = b.missed ∧ a.name = b.name := by
  have names : Path.compareChars a.name.toList b.name.toList = .eq ↔ a.name = b.name := by
    rw [Path.compareChars_eq]
    show Path.compareName a.name b.name = .eq ↔ a.name = b.name
    exact Std.LawfulEqCmp.compare_eq_iff_eq
  unfold rankOrder
  rw [Ordering.then_eq_eq, Ordering.then_eq_eq, Std.compare_eq_iff_eq, Std.compare_eq_iff_eq,
    floatKey_inj, names]
  exact and_congr_right fun _ => and_congr_left fun _ => eq_comm

/-- Being equally ranked goes both ways. -/
theorem tied_symm (tied : a.rankOrder b = .eq) : b.rankOrder a = .eq := by
  have swapped : b.rankOrder a = (a.rankOrder b).swap := Std.OrientedCmp.eq_swap
  rw [swapped, tied, Ordering.swap_eq]

/-- A class is ranked at or before another one unless it is ranked behind it. -/
theorem ranksBefore_iff : ranksBefore a b = true ↔ (a.rankOrder b).isLE = true := by
  unfold ranksBefore
  rw [bne_iff_ne, Ordering.isLE_iff_ne_gt]

/-- Being ranked at or before is transitive. -/
theorem ranksBefore_trans (a b c : ClassCoverage) (first : ranksBefore a b = true)
    (second : ranksBefore b c = true) : ranksBefore a c = true := by
  rw [ranksBefore_iff] at *
  exact Std.TransCmp.isLE_trans first second

/-- Of two classes, one is ranked at or before the other. -/
theorem isLE_total (a b : ClassCoverage) :
    (a.rankOrder b).isLE = true ∨ (b.rankOrder a).isLE = true := by
  have swapped : b.rankOrder a = (a.rankOrder b).swap := Std.OrientedCmp.eq_swap
  rw [swapped]
  cases a.rankOrder b <;> decide

/-- The order by which classes are sorted is total. -/
theorem ranksBefore_total (a b : ClassCoverage) : (ranksBefore a b || ranksBefore b a) = true := by
  rw [Bool.or_eq_true, ranksBefore_iff, ranksBefore_iff]
  exact isLE_total a b

/-! ## Ranked lists -/

/-- Every class of a ranked list is ranked at or before all later ones. -/
theorem pairwise_ranked (classes : List ClassCoverage) :
    (ranked classes).Pairwise fun a b => (a.rankOrder b).isLE = true := by
  have sorted := List.pairwise_mergeSort ranksBefore_trans ranksBefore_total classes
  exact sorted.imp ranksBefore_iff.mp

/-- Ranking keeps the classes. -/
theorem ranked_perm (classes : List ClassCoverage) : (ranked classes).Perm classes :=
  List.mergeSort_perm classes ranksBefore

/-- Equally ranked classes keep their order. -/
theorem filter_ranked (c : ClassCoverage) (classes : List ClassCoverage) :
    (ranked classes).filter (fun a => a.rankOrder c == .eq) =
      classes.filter fun a => a.rankOrder c == .eq := by
  -- Equally ranked classes are sorted as they are, so they are a part of the ranked list.
  have sorted : (classes.filter fun a => a.rankOrder c == .eq).Pairwise
      fun a b => ranksBefore a b = true := by
    rw [List.pairwise_filter]
    refine List.pairwise_of_forall fun a b tied tied' => ?_
    rw [beq_iff_eq] at tied tied'
    have back : c.rankOrder b = .eq := tied_symm tied'
    rw [ranksBefore_iff]
    apply Std.TransCmp.isLE_trans (b := c) <;> simp only [tied, back, Ordering.isLE_eq]
  have part := List.sublist_mergeSort ranksBefore_trans ranksBefore_total sorted
    List.filter_sublist
  have part' := part.filter fun a => a.rankOrder c == .eq
  rw [List.filter_filter] at part'
  simp only [Bool.and_self] at part'
  have length : (classes.filter fun a => a.rankOrder c == .eq).length =
      ((ranked classes).filter fun a => a.rankOrder c == .eq).length :=
    ((ranked_perm classes).filter _).length_eq.symm
  exact (part'.eq_of_length length).symm

/-- What is told of ranked classes does not depend on the order in which they are given, as long as
the same is told of equally ranked ones and nothing is told that the ranking goes by. -/
theorem map_ranked_of_perm {tell : ClassCoverage → ClassCoverage}
    (keeps : ∀ a b, (tell a).rankOrder (tell b) = a.rankOrder b)
    (alike : ∀ a ∈ classes, ∀ b ∈ classes, a.rankOrder b = .eq → tell a = tell b)
    (perm : classes'.Perm classes) : (ranked classes').map tell = (ranked classes).map tell := by
  have together : (ranked classes').Perm (ranked classes) :=
    (ranked_perm classes').trans (perm.trans (ranked_perm classes).symm)
  have sorted (classes : List ClassCoverage) : ((ranked classes).map tell).Pairwise
      fun a b => (a.rankOrder b).isLE = true := by
    rw [List.pairwise_map]
    simp only [keeps]
    exact pairwise_ranked classes
  apply List.Perm.eq_of_pairwise _ (sorted classes') (sorted classes) (together.map tell)
  intro first second firstIn secondIn before after
  obtain ⟨a, aIn, rfl⟩ := List.mem_map.mp firstIn
  obtain ⟨b, bIn, rfl⟩ := List.mem_map.mp secondIn
  rw [keeps] at before after
  have aThere : a ∈ classes := perm.mem_iff.mp ((ranked_perm classes').mem_iff.mp aIn)
  have bThere : b ∈ classes := (ranked_perm classes).mem_iff.mp bIn
  exact alike a aThere b bThere (Std.OrientedCmp.isLE_antisymm before after)

/-- Classes that are given in another order are ranked alike where no two different ones are equally
ranked. -/
theorem ranked_eq_of_perm (untied : ∀ a ∈ classes, ∀ b ∈ classes, a.rankOrder b = .eq → a = b)
    (perm : classes'.Perm classes) : ranked classes' = ranked classes := by
  have same : (ranked classes').map id = (ranked classes).map id :=
    map_ranked_of_perm (fun _ _ => rfl) untied perm
  rwa [List.map_id, List.map_id] at same

/-- Classes with different names are never equally ranked. -/
theorem untied_of_nodup (different : (classes.map name).Nodup) :
    ∀ a ∈ classes, ∀ b ∈ classes, a.rankOrder b = .eq → a = b := by
  intro a aIn b bIn tied
  have sameName : a.name = b.name := (rankOrder_eq_eq_iff.mp tied).2.2
  exact List.inj_on_of_nodup_map different aIn bIn sameName

/-- A comparison by which everything is ordered, where different things may be equally far. -/
structure IsTotalPreorder {α : Type} (order : α → α → Ordering) : Prop where
  refl : ∀ a, order a a = .eq
  trans : ∀ a b c, (order a b).isLE = true → (order b c).isLE = true → (order a c).isLE = true
  total : ∀ a b, (order a b).isLE = true ∨ (order b a).isLE = true
  swap : ∀ a b, order a b = (order b a).swap

/-- What it means that classes are ranked: they are the same ones, each at or before all later ones,
and equally ranked ones are in the order in which they were given. -/
structure IsRanking (classes result : List ClassCoverage) : Prop where
  perm : result.Perm classes
  sorted : result.Pairwise fun a b => (a.rankOrder b).isLE = true
  stable : ∀ c, result.filter (fun a => a.rankOrder c == .eq) =
    classes.filter fun a => a.rankOrder c == .eq

/-- Classes are compared by a total preorder, whatever their counts, names and percentages are, and
every list of them is ranked by it. Where no name is there twice, the order in which the classes are
given does not matter. -/
theorem ranks_every_list :
    IsTotalPreorder rankOrder ∧
    (∀ a b, a.rankOrder b = .lt ↔ RankedBefore a b) ∧
    (∀ classes, IsRanking classes (ranked classes)) ∧
    ∀ classes classes' : List ClassCoverage, (classes.map name).Nodup → classes'.Perm classes →
      ranked classes' = ranked classes := by
  refine ⟨⟨fun a => ?_, fun a b c first second => ?_, isLE_total, fun a b => ?_⟩,
    fun a b => rankOrder_eq_lt_iff, fun classes => ⟨?_, ?_, fun c => ?_⟩,
    fun classes classes' different perm => ?_⟩
  · exact Std.ReflCmp.compare_self
  · exact Std.TransCmp.isLE_trans first second
  · exact Std.OrientedCmp.eq_swap
  · exact ranked_perm classes
  · exact pairwise_ranked classes
  · exact filter_ranked c classes
  · exact ranked_eq_of_perm (untied_of_nodup different) perm

/-- Classes with percentages that are no numbers, of both signs, between ones that are equally
covered. -/
def strangeClasses : List ClassCoverage :=
  [⟨"a", 1, 1, 0x7FF8000000000000⟩, ⟨"b", 2, 2, 0xFFF8000000000001⟩, .ofCounts "c" 1 1,
    .ofCounts "d" 2 2]

/-- The strange classes are ranked alike when they are given the other way round. -/
theorem strangeClasses_ranked : (strangeClasses.map name).Nodup ∧
    ranked strangeClasses.reverse = ranked strangeClasses := by
  have different : (strangeClasses.map name).Nodup := by decide
  exact ⟨different, ranks_every_list.2.2.2 strangeClasses strangeClasses.reverse different
    (List.reverse_perm strangeClasses)⟩

end QualityGates.ClassCoverage
