import QualityGates.Document
import QualityGates.Drift.Evaluation
import QualityGates.Proofs.Text.Terminators

/-!
# Documents and their texts

A document holds all of its text but the ends of its lines, and numbers the lines from one without
gaps. Behind a text whose last line is ended, the lines of another one are counted on. The carriage
returns in front of line feeds make no difference to a document, and so none to its findings.
-/

namespace QualityGates

/-- The line that stands a number of lines further down. -/
def DocLine.shift (count : Nat) (line : DocLine) : DocLine :=
  { line with number := line.number + count }

namespace Document

/-- Lines are numbered without gaps. -/
theorem numbered_numbers (first : Nat) (ls : List (List Char)) :
    (numbered first ls).map DocLine.number = List.range' first ls.length := by
  induction ls generalizing first with
  | nil => rfl
  | cons line ls ih => rw [numbered, List.map_cons, ih, List.length_cons, List.range'_succ]

/-- Numbering keeps the texts of lines. -/
theorem numbered_texts (first : Nat) (ls : List (List Char)) :
    (numbered first ls).map (fun line => line.text.toList) = ls := by
  induction ls generalizing first with
  | nil => rfl
  | cons line ls ih => rw [numbered, List.map_cons, ih, String.toList_ofList]

/-- Numbering keeps the count of lines. -/
theorem length_numbered (first : Nat) (ls : List (List Char)) :
    (numbered first ls).length = ls.length := by
  have counted := congrArg List.length (numbered_numbers first ls)
  rwa [List.length_map, List.length_range'] at counted

/-- Lines that start further down are numbered like those that start at the top, shifted. -/
theorem numbered_shift (first count : Nat) (ls : List (List Char)) :
    numbered (first + count) ls = (numbered first ls).map (DocLine.shift count) := by
  induction ls generalizing first with
  | nil => rfl
  | cons line ls ih =>
    have next : first + count + 1 = first + 1 + count := by omega
    rw [numbered, numbered, List.map_cons, next, ih]
    rfl

/-- Lines behind other ones are counted on. -/
theorem numbered_append (first : Nat) (ls more : List (List Char)) :
    numbered first (ls ++ more) =
      numbered first ls ++ (numbered first more).map (DocLine.shift ls.length) := by
  rw [← numbered_shift]
  induction ls generalizing first with
  | nil => rfl
  | cons line ls ih =>
    have next : first + (line :: ls).length = first + 1 + ls.length := by
      rw [List.length_cons]
      omega
    rw [List.cons_append, numbered, numbered, ih, next, List.cons_append]

/-- A document without carriage returns is the same when its line feeds get some. -/
theorem ofText_withReturns (path : String) {text : String} (bare : '\r' ∉ text.toList) :
    ofText path (String.ofList (Text.withReturns text.toList)) = ofText path text := by
  unfold ofText
  rw [String.toList_ofList, Text.lines_withReturns bare]

/-- Cutting a text into the lines of a document loses nothing. The lines are numbered from one
without gaps, and they are the only ones that give the text back with line feeds, carriage returns
and line feeds, or for the last one nothing between them. The lines of a text that is ended come
before those of what follows, which are shifted by their number. Where there are no carriage
returns, putting one in front of every line feed changes neither the documents nor what any rules
find in them. -/
theorem ofText_loses_nothing :
    (∀ path text, (ofText path text).path = path ∧
      (ofText path text).lines.map DocLine.number =
        List.range' 1 (ofText path text).lines.length ∧
      ∀ ls, (ofText path text).lines.map (fun line => line.text.toList) = ls ↔
        ∃ endings, Text.Terminates text.toList ls endings) ∧
    (∀ path ended rest, Text.Ended ended.toList →
      (ofText path (ended ++ rest)).lines = (ofText path ended).lines ++
        (ofText path rest).lines.map (DocLine.shift (ofText path ended).lines.length)) ∧
    (∀ path text, '\r' ∉ text.toList →
      ofText path (String.ofList (Text.withReturns text.toList)) = ofText path text) ∧
    ∀ (rules : List Rule) (texts : List (String × String)),
      (∀ document ∈ texts, '\r' ∉ document.2.toList) →
      Drift.findings rules (texts.map fun document =>
          ofText document.1 (String.ofList (Text.withReturns document.2.toList))) =
        Drift.findings rules (texts.map fun document => ofText document.1 document.2) := by
  refine ⟨fun path text => ⟨rfl, ?_, fun ls => ?_⟩, ?_, fun path text => ofText_withReturns path,
    ?_⟩
  · unfold ofText
    rw [numbered_numbers, length_numbered]
  · unfold ofText
    rw [numbered_texts, Text.lines_eq_iff_terminates]
  · intro path ended rest isEnded
    unfold ofText
    rw [String.toList_append, Text.lines_append isEnded, numbered_append, length_numbered]
  · intro rules texts bare
    have same : ∀ document ∈ texts,
        ofText document.1 (String.ofList (Text.withReturns document.2.toList)) =
          ofText document.1 document.2 :=
      fun document member => ofText_withReturns document.1 (bare document member)
    rw [List.map_congr_left same]

/-- A text with an empty line, with a carriage return inside a line and with one at its end is
counted on behind another one, and line feeds may get carriage returns. -/
theorem mixed_text_cut :
    Text.Ended "one\r\n\n".toList ∧
    (ofText "a.md" ("one\r\n\n" ++ "two\rthree\nfour\r")).lines =
      [⟨1, "one"⟩, ⟨2, ""⟩, ⟨3, "two\rthree"⟩, ⟨4, "four\r"⟩] ∧
    '\r' ∉ "one\n\n@Index(IndexType.A)".toList ∧
    ofText "a.md" "one\r\n\r\n@Index(IndexType.A)" = ofText "a.md" "one\n\n@Index(IndexType.A)" ∧
    Drift.findings (Rule.forDocs none []) [ofText "a.md" "one\r\n\r\n@Index(IndexType.A)"] =
      Drift.findings (Rule.forDocs none []) [ofText "a.md" "one\n\n@Index(IndexType.A)"] := by
  have ended : Text.Ended "one\r\n\n".toList := fun c last => (Option.some.inj last).symm
  have bare : '\r' ∉ "one\n\n@Index(IndexType.A)".toList := by decide
  have documents : ∀ document ∈ [("a.md", "one\n\n@Index(IndexType.A)")],
      '\r' ∉ document.2.toList := by
    rintro document member
    rw [List.mem_singleton.mp member]
    exact bare
  have returned : String.ofList (Text.withReturns "one\n\n@Index(IndexType.A)".toList) =
      "one\r\n\r\n@Index(IndexType.A)" := by decide +kernel
  have same := ofText_loses_nothing.2.2.1 "a.md" _ bare
  have found := ofText_loses_nothing.2.2.2 (Rule.forDocs none []) _ documents
  simp only [List.map_cons, List.map_nil, returned] at same found
  refine ⟨ended, (ofText_loses_nothing.2.1 _ _ _ ended).trans ?_, bare, same, found⟩
  decide +kernel

end Document
end QualityGates
