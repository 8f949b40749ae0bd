/-!
# Lines of a text

A line ends at a line feed, which may follow a carriage return; neither belongs to the line. A
carriage return on its own is an ordinary character, and text after the last line feed is a line
only when there is some.
-/

namespace QualityGates.Text

/-- The lines of a text, in order and without their terminators. -/
def lines : List Char → List (List Char)
  | [] => []
  | '\n' :: rest => [] :: lines rest
  | '\r' :: '\n' :: rest => [] :: lines rest
  | c :: rest =>
    match lines rest with
    | [] => [[c]]
    | line :: more => (c :: line) :: more

end QualityGates.Text
