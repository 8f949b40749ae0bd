import QualityGates.Drift.Evaluation

/-!
# The file of a finding

The location of a finding of the drift gate is a path, a colon and a line number. A path may hold
colons itself, so the file is what stands before the last one.
-/

namespace QualityGates

/-- What stands before the last colon of a text. -/
def beforeLastColon (text : List Char) : List Char :=
  ((text.reverse.dropWhile fun c => c != ':').drop 1).reverse

/-- The path in the location of a finding. -/
def Finding.file (f : Finding) : String :=
  String.ofList (beforeLastColon f.location.toList)

namespace Drift

/-- A number is written without a colon. -/
theorem ne_colon_of_mem_natText {n : Nat} {c : Char} (member : c ∈ (Number.natText n).toList) :
    (c != ':') = true := by
  unfold Number.natText at member
  rw [String.toList_ofList] at member
  have digit := Nat.isDigit_of_mem_toDigits (by decide) (by decide) member
  rw [bne_iff_ne]
  rintro rfl
  exact absurd digit (by decide)

/-- The last colon is the one before a text without colons. -/
theorem beforeLastColon_append {path number : List Char}
    (noColon : ∀ c ∈ number, (c != ':') = true) :
    beforeLastColon (path ++ ':' :: number) = path := by
  unfold beforeLastColon
  rw [List.reverse_append, List.reverse_cons, List.append_assoc,
    List.dropWhile_append_of_pos fun c member => noColon c (List.mem_reverse.mp member)]
  simp

variable {path : String} {line : DocLine} {rule : Rule} {rules : List Rule}
  {documents : List Document}

end Drift
end QualityGates
