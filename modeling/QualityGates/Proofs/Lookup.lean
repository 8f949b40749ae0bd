import QualityGates.GateError

/-!
# Texts that are looked up

What looking up a text gives in surroundings, in terms of the bytes that a path leads to there.
-/

namespace QualityGates

/-- The bytes of a text are decoded as it. -/
theorem decodeText_toUTF8 (text : String) : decodeText text.toUTF8 = .ok text := by
  unfold decodeText String.fromUTF8?
  rw [dif_pos (show text.toUTF8.IsValidUTF8 from text.isValidUTF8)]
  rfl

namespace GateError

/-- A fault of a reader is a missing input or is passed on. -/
theorem ofReadFault_cases (path : Path) (fault : ReadFault) :
    fault = .notFound ∧ ofReadFault path fault = .missingInput path ∨
      fault ≠ .notFound ∧ ofReadFault path fault = .unreadable path fault := by
  cases fault <;> simp [ofReadFault]

end GateError

namespace Lookup

variable (s : Surroundings) (p : Path)

/-- The text at a path is decoded from the bytes that the path leads to. -/
theorem inside_text : (text p).inside s = (s.tree.bytes s.workingDirectory p).bind decodeText := by
  unfold text
  rw [inside_bind, inside_pure, inside_question]
  rfl

/-- A file that holds the bytes of a text is read as it. -/
theorem inside_text_of_bytes {s : Surroundings} {p : Path} {content : String}
    (there : s.tree.bytes s.workingDirectory p = .ok content.toUTF8) :
    (text p).inside s = .ok content := by
  rw [inside_text, there]
  exact decodeText_toUTF8 content

/-- A text that a gate cannot do without gives an error of the gate in place of a fault. -/
theorem inside_requiredText :
    (requiredText p).inside s = ((text p).inside s).mapError (GateError.ofReadFault p) := by
  unfold requiredText
  rw [inside_bind, inside_pure]

end Lookup
end QualityGates
