import Mathlib.Data.List.Basic
import QualityGates.Glob.Basic

/-!
# What globs leave of a path

What may remain of a path after a glob is what may remain after its tokens, one after the other
(`mem_rests_cons_iff`). A literal takes the bytes of its character, and a star takes any bytes.
-/

namespace QualityGates.Glob

variable {path rest bytes : List UInt8} {paths : List (List UInt8)} {token : GlobToken}
  {glob : Glob}

/-- Removing repetitions keeps the members. -/
theorem mem_distinct {α : Type} [DecidableEq α] {a : α} {as : List α} :
    a ∈ distinct as ↔ a ∈ as := by
  induction as with
  | nil => rfl
  | cons b as ih =>
    rw [distinct, List.mem_cons, List.mem_cons, List.mem_filter, ih, decide_eq_true_iff]
    by_cases same : a = b <;> simp [same]

/-- What remains after a fixed run of bytes stands behind it. -/
theorem afterBytes_eq_some_iff : afterBytes bytes path = some rest ↔ path = bytes ++ rest := by
  induction bytes generalizing path with
  | nil => simp [afterBytes]
  | cons b bytes ih =>
    cases path with
    | nil => simp [afterBytes]
    | cons c path =>
      rw [afterBytes, List.cons_append, List.cons.injEq]
      by_cases same : b = c
      · rw [if_pos same, ih]
        simp [same]
      · rw [if_neg same]
        simp [Ne.symm same]

/-- The suffixes of a list are what may stand behind a part of it. -/
theorem mem_suffixes_iff {α : Type} {as rest : List α} :
    rest ∈ suffixes as ↔ ∃ front, as = front ++ rest := by
  induction as with
  | nil => simp [suffixes, eq_comm]
  | cons a as ih =>
    rw [suffixes, List.mem_cons, ih]
    constructor
    · rintro (rfl | ⟨front, rfl⟩)
      · exact ⟨[], rfl⟩
      · exact ⟨a :: front, rfl⟩
    · rintro ⟨front, split⟩
      cases front with
      | nil => exact .inl split.symm
      | cons b front => exact .inr ⟨front, (List.cons.inj split).2⟩

/-- After no token, the path itself remains. -/
theorem mem_rests_nil_iff : rest ∈ rests [] [path] ↔ rest = path := by
  rw [rests, List.mem_singleton]

/-- What remains of some paths remains of one of them. -/
theorem mem_rests_iff : rest ∈ rests glob paths ↔ ∃ path ∈ paths, rest ∈ rests glob [path] := by
  induction glob generalizing paths with
  | nil => simp [rests]
  | cons token glob ih =>
    have later {paths : List (List UInt8)} : rest ∈ rests (token :: glob) paths ↔
        ∃ path ∈ paths, ∃ next ∈ tokenRests token path, rest ∈ rests glob [next] := by
      rw [rests, ih]
      simp only [mem_distinct, List.mem_flatMap]
      constructor
      · rintro ⟨next, ⟨path, member, taken⟩, remains⟩
        exact ⟨path, member, next, taken, remains⟩
      · rintro ⟨path, member, next, taken, remains⟩
        exact ⟨next, ⟨path, member, taken⟩, remains⟩
    rw [later]
    simp only [later, List.mem_singleton, exists_eq_left]

/-- What remains after a glob remains after its first token and then after the other ones. -/
theorem mem_rests_cons_iff : rest ∈ rests (token :: glob) [path] ↔
    ∃ next ∈ tokenRests token path, rest ∈ rests glob [next] := by
  rw [rests, mem_rests_iff]
  simp only [mem_distinct, List.flatMap_singleton]

/-- A literal takes the bytes of its character. -/
theorem mem_literal_iff {c : Char} :
    rest ∈ tokenRests (.literal c) path ↔ path = charBytes c ++ rest := by
  rw [tokenRests, Option.mem_toList, afterBytes_eq_some_iff]

/-- A star takes any bytes. -/
theorem mem_star_iff : rest ∈ tokenRests .star path ↔ ∃ front, path = front ++ rest := by
  rw [tokenRests, mem_suffixes_iff]

end QualityGates.Glob
