import QualityGates.Proofs.Allowlist
import QualityGates.Proofs.Glob.Starred

/-!
# Allow-lists with stars

A star in the glob of an allow-list stands for any text, separators included, so a glob of literal
characters and single stars that is not too large passes over the paths that are its pieces with
some text between them (`stars_cross_directories`). Paths that end in `..` are the exception: a glob
that asks for the name of a file never passes over them, though a star could stand for what is in
front of its last dot.
-/

namespace QualityGates

namespace Glob

variable {piece path : List Char}

/-- A single piece gives itself. -/
theorem fills_single_iff : Fills [piece] path ↔ path = piece := by
  constructor
  · rintro (_ | ⟨_, _, ⟨⟩⟩)
    rfl
  · rintro rfl
    exact .last path

/-- A piece in front of a star gives what starts with it. -/
theorem fills_front_iff : Fills [piece, []] path ↔ piece <+: path := by
  constructor
  · intro fills
    cases fills with
    | gap _ between more =>
      rw [fills_single_iff.mp more, List.append_nil]
      exact List.prefix_append piece between
  · rintro ⟨between, rfl⟩
    have fills := Fills.gap piece between (.last [])
    rwa [List.append_nil] at fills

end Glob

namespace Allowlist

open Glob

variable {pattern : String}

/-- The allow-list of a pattern of literal characters and single stars passes over what the tokens
of the pattern take. -/
theorem ofPatterns_starred (stars : IsStarred pattern.toList)
    (small : size (starred pattern.toList) ≤ Pattern.sizeLimit) :
    ∃ allowlist, ofPatterns [pattern] = .ok allowlist ∧ ∀ path : String,
      allowlist.allows path = true ↔ Fills (Text.pieces '*' pattern.toList) path.toList ∧
        ¬ (AsksForName pattern.toList ∧ EndsInParent path.toList) := by
  have read := ofText_starred stars
  have only : globsOf [pattern] = [starred pattern.toList] := by
    unfold globsOf
    rw [List.filterMap_cons, read]
    rfl
  have accepted : Accepted [pattern] :=
    ⟨List.forall_mem_singleton.mpr ⟨_, read⟩, only ▸ setFault?_starred small⟩
  obtain ⟨allowlist, made, _, takes⟩ := ofPatterns_ok accepted
  refine ⟨allowlist, made, fun path => ?_⟩
  have single : anyTakes [pattern] path = isMatch (starred pattern.toList) path := by
    unfold anyTakes
    rw [List.any_cons, List.any_nil, Bool.or_false, read]
    rfl
  rw [takes, single, isMatch_starred stars]

/-- A pattern of literal characters and single stars is accepted unless it is too large. It passes
over the paths that are its pieces with any text in place of each star, apart from those with the
last component `..` where the pattern ends in a dot behind a star, unless that star is its first
character and more than the dot stands behind it. So a pattern without stars passes over itself, and
a single star at the end passes over everything that starts with what is in front of it. -/
theorem stars_cross_directories (stars : IsStarred pattern.toList)
    (small : size (starred pattern.toList) ≤ Pattern.sizeLimit) :
    ∃ allowlist, ofPatterns [pattern] = .ok allowlist ∧
      (∀ path : String, allowlist.allows path = true ↔
        Fills (Text.pieces '*' pattern.toList) path.toList ∧
          ¬ (AsksForName pattern.toList ∧ EndsInParent path.toList)) ∧
      ('*' ∉ pattern.toList → ∀ path, allowlist.allows path = true ↔ path = pattern) ∧
      ∀ front : String, pattern = front ++ "*" → '*' ∉ front.toList →
        ∀ path : String, allowlist.allows path = true ↔ front.toList <+: path.toList := by
  obtain ⟨allowlist, made, allows⟩ := ofPatterns_starred stars small
  refine ⟨allowlist, made, allows, ?_, ?_⟩
  · intro fixed path
    have noName : ¬ AsksForName pattern.toList := by
      rintro (bare | ⟨_, inside⟩)
      · exact fixed (by rw [bare]; decide)
      · exact fixed (List.mem_of_mem_tail inside)
    rw [allows, Text.pieces_of_not_mem fixed, fills_single_iff, String.toList_inj]
    exact and_iff_left fun asks => noName asks.1
  · rintro front rfl absent path
    have written : (front ++ "*").toList = front.toList ++ '*' :: [] := String.toList_append
    have noName : ¬ AsksForName (front ++ "*").toList := by
      rw [written]
      rintro (bare | ⟨last, _⟩)
      · have same := congrArg List.getLast? bare
        rw [List.getLast?_concat] at same
        cases same
      · rw [List.getLast?_concat] at last
        cases last
    have pieces : Text.pieces '*' (front ++ "*").toList = [front.toList, []] := by
      rw [written, Text.pieces_append_mark, Text.pieces_of_not_mem absent]
      rfl
    rw [allows, pieces, fills_front_iff]
    exact and_iff_left fun asks => noName asks.1

/-- A star takes separators and characters of several bytes, and `..` is the name of no file. -/
theorem nested_path_allowed : IsStarred "docs/*.".toList ∧
    size (starred "docs/*.".toList) ≤ Pattern.sizeLimit ∧
    ∃ allowlist, ofPatterns ["docs/*."] = .ok allowlist ∧
      allowlist.allows "docs/x/ä." = true ∧ allowlist.allows "docs/.." = false := by
  have stars : IsStarred "docs/*.".toList :=
    ⟨by simp [isLiteral], by simp [List.infix_cons_iff, List.cons_prefix_cons]⟩
  have small : size (starred "docs/*.".toList) ≤ Pattern.sizeLimit := by decide
  obtain ⟨allowlist, made, allows, _⟩ := @stars_cross_directories "docs/*." stars small
  have asks : AsksForName "docs/*.".toList := .inr ⟨by decide, by decide⟩
  have pieces : Text.pieces '*' "docs/*.".toList = ["docs/".toList, ['.']] := by decide
  have path : "docs/x/ä.".toList = "docs/".toList ++ "x/ä".toList ++ ['.'] := by decide
  refine ⟨stars, small, allowlist, made, (allows _).mpr ⟨?_, ?_⟩, ?_⟩
  · rw [pieces, path]
    exact .gap _ _ (.last _)
  · rintro ⟨_, name⟩
    unfold EndsInParent at name
    revert name
    decide
  · rw [← Bool.not_eq_true, allows]
    exact fun taken => taken.2 ⟨asks, .inr (by decide)⟩

/-- A dot behind a star asks for the name of a file, which `..` is not. -/
theorem bareDot_lacks_parent : ¬ ∀ pattern : String, IsStarred pattern.toList →
    size (starred pattern.toList) ≤ Pattern.sizeLimit →
      ∃ allowlist, ofPatterns [pattern] = .ok allowlist ∧ ∀ path : String,
        allowlist.allows path = true ↔ Fills (Text.pieces '*' pattern.toList) path.toList := by
  intro exact
  have stars : IsStarred "*.".toList := ⟨by simp [isLiteral], by decide⟩
  have small : size (starred "*.".toList) ≤ Pattern.sizeLimit := by decide
  obtain ⟨allowlist, made, takes⟩ := exact "*." stars small
  obtain ⟨same, made', allows⟩ := @ofPatterns_starred "*." stars small
  obtain rfl := Except.ok.inj (made.symm.trans made')
  have filled : Fills (Text.pieces '*' "*.".toList) "..".toList := .gap [] ['.'] (.last ['.'])
  exact ((allows "..").mp ((takes "..").mpr filled)).2 ⟨.inl rfl, .inl rfl⟩

end Allowlist
end QualityGates
