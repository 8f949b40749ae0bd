/-!
# Markup events

A document is read as a list of events: tags, texts, and markup that carries no content of its own.
Elements need not be closed at the end of the document, but a closing tag must name the element
that was opened last.
-/

namespace QualityGates.Xml

/-- Why a number after `&#` is no character. -/
inductive CharFault where
  | sign
  | noDigits
  | notDigit
  | tooLarge
  | notCodePoint (n : Nat)
  | forbidden
  deriving DecidableEq, Repr, Inhabited

/-- The wording of a fault in a numbered character. -/
def CharFault.message : CharFault → String
  | sign => "unexpected number sign"
  | noDigits => "cannot parse integer from empty string"
  | notDigit => "invalid digit found in string"
  | tooLarge => "number too large to fit in target type"
  | notCodePoint n => "`" ++ toString n ++ "` is not a valid codepoint"
  | forbidden => "0x0 character is not permitted in XML"

/-- What is wrong with a document. Places are counted in bytes from the start of the text or of
the tag that is concerned. -/
inductive Fault where
  | openMarkup
  | openComment
  | openCData
  | openDoctype
  | openInstruction
  | openTag
  | wrongEnd (expected found : String)
  | strayEnd (found : String)
  | unnamedDoctype
  | keyWithoutEquals (place : Nat)
  | missingValue (place : Nat)
  | unquotedValue (place : Nat)
  | openValue (place : Nat) (quote : Char)
  | repeatedKey (place previous : Nat)
  | openEntity (first last : Nat)
  | unknownEntity (first last : Nat) (name : String)
  | badCharacter (fault : CharFault)
  deriving DecidableEq, Repr, Inhabited

/-- The wording of a fault. -/
def Fault.message : Fault → String
  | openMarkup => "syntax error: unknown or missed symbol in markup"
  | openComment => "syntax error: comment not closed: `-->` not found before end of input"
  | openCData => "syntax error: CDATA not closed: `]]>` not found before end of input"
  | openDoctype => "syntax error: DOCTYPE not closed: `>` not found before end of input"
  | openInstruction =>
    "syntax error: processing instruction or xml declaration not closed: " ++
      "`?>` not found before end of input"
  | openTag => "syntax error: tag not closed: `>` not found before end of input"
  | wrongEnd expected found =>
    "ill-formed document: expected `</" ++ expected ++ ">`, but `</" ++ found ++ ">` was found"
  | strayEnd found =>
    "ill-formed document: close tag `</" ++ found ++ ">` does not match any open tag"
  | unnamedDoctype =>
    "ill-formed document: `<!DOCTYPE>` declaration does not contain a name of a document type"
  | keyWithoutEquals place =>
    "position " ++ toString place ++
      ": attribute key must be directly followed by `=` or space"
  | missingValue place =>
    "position " ++ toString place ++ ": `=` must be followed by an attribute value"
  | unquotedValue place =>
    "position " ++ toString place ++ ": attribute value must be enclosed in `\"` or `'`"
  | openValue place quote =>
    "position " ++ toString place ++ ": missing closing quote `" ++ String.singleton quote ++
      "` in attribute value"
  | repeatedKey place previous =>
    "position " ++ toString place ++ ": duplicated attribute, previous declaration at position " ++
      toString previous
  | openEntity first last =>
    "Error while escaping character at range " ++ toString first ++ ".." ++ toString last ++
      ": Cannot find ';' after '&'"
  | unknownEntity first last name =>
    "at " ++ toString first ++ ".." ++ toString last ++ ": unrecognized entity `" ++ name ++ "`"
  | badCharacter fault => "invalid character reference: " ++ fault.message

/-- Blanks between and around the parts of markup. -/
def isSpace (c : Char) : Bool :=
  c == ' ' || c == '\t' || c == '\n' || c == '\r'

/-- The number of bytes of some characters. -/
def byteCount : List Char → Nat
  | [] => 0
  | c :: rest => c.utf8Size + byteCount rest

/-- What stands between the brackets of a tag that opens an element, without a closing slash. -/
structure Tag where
  content : List Char
  deriving DecidableEq, Repr, Inhabited

namespace Tag

/-- The name of a tag, up to the first blank. -/
def name (tag : Tag) : List Char :=
  tag.content.takeWhile (fun c => !isSpace c)

/-- The name of a tag after its first colon, if it has one. -/
def localName (tag : Tag) : String :=
  match tag.name.dropWhile (fun c => c != ':') with
  | _ :: name => String.ofList name
  | [] => String.ofList tag.name

end Tag

/-- One thing that a document holds. -/
inductive Event where
  | opening (tag : Tag)
  /-- An element that its own tag closes. -/
  | single (tag : Tag)
  | closing
  | text (cs : List Char)
  /-- A comment, a declaration, an instruction or a stretch of character data. -/
  | aside
  deriving DecidableEq, Repr, Inhabited

end QualityGates.Xml
