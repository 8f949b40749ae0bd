import Mathlib.Data.List.Induction
import Mathlib.Data.Nat.Digits.Defs
import QualityGates.Proofs.Number.Digits

/-!
# Numbers in decimal

A number is written in decimal by one or more ASCII digits, and any number of zeros may stand in
front. Reading takes exactly such texts, and a word only if the number is below `2 ^ 64`
(`readWord_eq_some_iff`).
-/

namespace QualityGates.Number

variable {cs : List Char} {n : Nat}

/-- One or more ASCII digits, the last one of which counts ones, the one in front of it tens, and so
on. -/
structure IsDecimal (cs : List Char) (n : Nat) : Prop where
  filled : cs ≠ []
  digits : ∀ c ∈ cs, c.isDigit = true
  value : Nat.ofDigits 10 (cs.reverse.map fun c => c.toNat - '0'.toNat) = n

/-- The value of digits is the number with these digits. -/
theorem value_eq_ofDigits (cs : List Char) :
    value cs = Nat.ofDigits 10 (cs.reverse.map fun c => c.toNat - '0'.toNat) := by
  induction cs using List.reverseRecOn with
  | nil => rfl
  | append_singleton cs c ih =>
    have last : value (cs ++ [c]) = 10 * value cs + digitValue c := by
      unfold value valueFrom
      rw [List.foldl_append]
      rfl
    rw [last, List.reverse_concat, List.map_cons, Nat.ofDigits_cons, ← ih, Nat.add_comm]
    rfl

/-- Reading takes one or more digits. -/
theorem readNat_eq_some_iff : readNat cs = some n ↔ IsDecimal cs n := by
  have digits : cs.all isDigit = true ↔ ∀ c ∈ cs, c.isDigit = true := List.all_eq_true
  unfold readNat
  rw [value_eq_ofDigits]
  by_cases accepted : (!cs.isEmpty && cs.all isDigit) = true
  · rw [if_pos accepted, Option.some.injEq]
    rw [Bool.and_eq_true, digits] at accepted
    exact ⟨fun value => ⟨by simpa using accepted.1, accepted.2, value⟩, fun h => h.value⟩
  · rw [if_neg accepted]
    rw [Bool.and_eq_true, digits] at accepted
    exact ⟨nofun, fun h => absurd ⟨by simpa using h.filled, h.digits⟩ accepted⟩

/-- Reading a word takes one or more digits of a number that fits. -/
theorem readWord_eq_some_iff {w : UInt64} : readWord cs = some w ↔ IsDecimal cs w.toNat := by
  unfold readWord
  cases read : readNat cs with
  | none =>
    refine ⟨nofun, fun decimal => ?_⟩
    cases read.symm.trans (readNat_eq_some_iff.mpr decimal)
  | some n =>
    have decimal : ∀ m, IsDecimal cs m ↔ n = m := by
      intro m
      rw [← readNat_eq_some_iff, read, Option.some.injEq]
    rw [decimal]
    dsimp only
    by_cases fits : n < Nat.pow 2 64
    · rw [if_pos fits, Option.some.injEq, ← UInt64.toNat_inj, UInt64.toNat_ofNat_of_lt' fits]
    · rw [if_neg fits]
      refine ⟨nofun, fun same => ?_⟩
      have small := w.toNat_lt
      exact absurd (same ▸ small) fits

/-- A number is written in decimal by its digits. -/
theorem isDecimal_natText (n : Nat) : IsDecimal (natText n).toList n := by
  have filled : Nat.toDigits 10 n ≠ [] :=
    List.ne_nil_of_length_pos Nat.length_toDigits_pos
  rw [natText, String.toList_ofList]
  refine ⟨filled, fun c member => isDigit_of_mem_toDigits member, ?_⟩
  rw [← value_eq_ofDigits, value_toDigits]

/-- A word is read back from its digits, also where a sign may be in front of them. -/
theorem readPlusWord_natText (w : UInt64) : readPlusWord (natText w.toNat).toList = some w := by
  have decimal := isDecimal_natText w.toNat
  have read : readWord (natText w.toNat).toList = some w := readWord_eq_some_iff.mpr decimal
  unfold readPlusWord
  split
  · rename_i rest signed
    have digit := decimal.digits '+' (signed ▸ List.mem_cons_self)
    exact absurd digit (by decide)
  · exact read

end QualityGates.Number
