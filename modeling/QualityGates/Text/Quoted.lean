import QualityGates.Text.Printable

/-!
# Quoted text in messages

A message shows a text between quotation marks so that every character can be told: quotation
marks, backslashes and the common controls have a short escape, and characters that do not show on
their own are given by their code point.
-/

namespace QualityGates.Text

/-- How a character is shown between quotation marks. -/
def shownChar (c : Char) : List Char :=
  if c = '\x00' then ['\\', '0']
  else if c = '\t' then ['\\', 't']
  else if c = '\r' then ['\\', 'r']
  else if c = '\n' then ['\\', 'n']
  else if c = '"' then ['\\', '"']
  else if c = '\\' then ['\\', '\\']
  else if extendsPrevious c || !isPrintable c then
    ['\\', 'u', '\x7b'] ++ Nat.toDigits 16 c.toNat ++ ['\x7d']
  else [c]

/-- A text between quotation marks. -/
def shown (s : String) : String :=
  String.ofList ('"' :: (s.toList.flatMap shownChar ++ ['"']))

end QualityGates.Text
