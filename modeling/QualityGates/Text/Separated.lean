import QualityGates.Text.Blank

/-!
# Separated text

Text cut at every occurrence of one character, and comma lists: the entries of a comma list are
its pieces, trimmed, with blank pieces left out.
-/

namespace QualityGates.Text

/-- The pieces between occurrences of `mark`; there is always one more piece than marks. -/
def pieces (mark : Char) : List Char → List (List Char)
  | [] => [[]]
  | c :: rest =>
    if c = mark then [] :: pieces mark rest
    else
      match pieces mark rest with
      | [] => [[c]]
      | piece :: more => (c :: piece) :: more

/-- The entries of a comma list, trimmed and without blank ones. -/
def commaEntries (cs : List Char) : List (List Char) :=
  ((pieces ',' cs).map trim).filter (fun entry => !entry.isEmpty)

/-- The entries of a comma list given as text. -/
def commaList (s : String) : List String :=
  (commaEntries s.toList).map String.ofList

end QualityGates.Text
