import QualityGates.GateError
import QualityGates.Pattern.Reader
import QualityGates.Version

/-!
# Documentation rules

A rule reports the lines in which its pattern occurs. The rules of the drift gate are fixed: two of
them find malformed snippets, and one finds versions that are out of date. The latter looks for the
release line before the baseline, or for literal versions when some are given; without either there
is no such rule.

The pattern of a rule is given by its meaning and in a written form. A set of rules is only made if
every written form can be read, which may fail for many or long literals.
-/

namespace QualityGates

/-- A rule for the lines of documents. -/
structure Rule where
  id : String
  /-- The written form of the pattern. -/
  source : String
  message : String
  pattern : Pattern
  deriving Inhabited

namespace Rule

/-- Whether a rule reports a line. -/
def flags (r : Rule) (line : String) : Bool :=
  r.pattern.isIn line

/-- A rule with a pattern in its written form. -/
def ofSource (id source message : String) : Except GateError Rule :=
  match Pattern.ofText? source with
  | some pattern => .ok { id, source, message, pattern }
  | none => .error (.invalidPattern id)

/-- The identifier of the rule for stale versions. -/
def staleVersionId : String := "stale-version"

/-- The identifier of the rule for repositories with several type parameters. -/
def repositoryArityId : String := "invalid-memrisrepository-arity"

/-- The identifier of the rule for malformed index annotations. -/
def indexSyntaxId : String := "invalid-index-annotation-syntax"

/-- A run of characters that ends neither a type nor a line. -/
def typeArguments : Pattern :=
  .plus (.char (.complement (.union (.one '>') (.one '\n'))))

/-- Reports repositories with more than one type parameter. -/
def repositoryArity : Rule where
  id := repositoryArityId
  source := "MemrisRepository<[^>\\n]+,\\s*[^>\\n]+>"
  message := "MemrisRepository must use one generic type parameter: MemrisRepository<T>"
  pattern :=
    .sequence
      [.text "MemrisRepository<".toList, typeArguments, .char (.one ','), .star (.char .blank),
        typeArguments, .char (.one '>')]

/-- Reports annotations that name the kind of an index without `type =`. -/
def indexSyntax : Rule where
  id := indexSyntaxId
  source := "@Index\\(\\s*IndexType\\."
  message := "invalid @Index syntax; use @Index(type = Index.IndexType.X)"
  pattern :=
    .sequence
      [.text "@Index(".toList, .star (.char .blank), .text "IndexType.".toList]

end Rule

/-- A pattern between two edges of words. -/
def Pattern.wholeWord (p : Pattern) : Pattern :=
  .sequence [.edge .wordEdge, p, .edge .wordEdge]

/-- A pattern together with its written form. -/
structure WrittenPattern where
  source : String
  pattern : Pattern

namespace WrittenPattern

/-- One or more decimal digits. -/
def digits : Pattern :=
  .plus (.char .digit)

/-- The versions of the release line before a version: the same major version with the minor
version before, or the major version before. The first release line has none before it. -/
def precedingVersions? (baseline : Version) : Option WrittenPattern :=
  if 0 < baseline.minor then
    let major := Number.natText baseline.major.toNat
    let minor := Number.natText (baseline.minor - 1).toNat
    some
      { source := "\\b" ++ major ++ "\\." ++ minor ++ "\\.\\d+\\b"
        pattern :=
          .wholeWord
            (.sequence [.text (major ++ "." ++ minor ++ ".").toList, digits]) }
  else if 0 < baseline.major then
    let major := Number.natText (baseline.major - 1).toNat
    some
      { source := "\\b" ++ major ++ "\\.\\d+\\.\\d+\\b"
        pattern :=
          .wholeWord
            (.sequence [.text (major ++ ".").toList, digits, .char (.one '.'), digits]) }
  else none

/-- Any of some literal texts. -/
def ofLiterals (literals : List String) : WrittenPattern where
  source :=
    "\\b(?:" ++
      String.intercalate "|"
        (literals.map (fun s => String.ofList (Pattern.quoteChars s.toList))) ++
      ")\\b"
  pattern := .wholeWord (.anyOf (literals.map (fun s => .text s.toList)))

end WrittenPattern

namespace Rule

/-- What the rule for stale versions reports. -/
def staleMessage (baseline : Option Version) : String :=
  match baseline with
  | some version =>
    "stale version literal detected (expected docs baseline: " ++ version.text ++ ")"
  | none => "stale version literal detected"

/-- The pattern of stale versions; literal versions go before the baseline. -/
def stalePattern? (baseline : Option Version) (literals : List String) : Option WrittenPattern :=
  if literals.isEmpty then baseline.bind WrittenPattern.precedingVersions?
  else some (.ofLiterals literals)

/-- Reports stale versions, if it can be told what they are. -/
def staleVersion? (baseline : Option Version) (literals : List String) : Option Rule :=
  (stalePattern? baseline literals).map (fun written =>
    { id := staleVersionId
      source := written.source
      message := staleMessage baseline
      pattern := written.pattern })

/-- The rules that the drift gate asks for, in order; `RuleSet.forDocs` makes them. -/
def forDocs (baseline : Option Version) (literals : List String) : List Rule :=
  (staleVersion? baseline literals).toList ++ [repositoryArity, indexSyntax]

/-- The rule, if its written form can be read. -/
def checked (r : Rule) : Except GateError Rule :=
  match Pattern.ofText? r.source with
  | some _ => .ok r
  | none => .error (.invalidPattern r.id)

/-- A rule in a structured listing. -/
def toJson (r : Rule) : Json :=
  .object [("id", .string r.id), ("pattern", .string r.source), ("message", .string r.message)]

end Rule

namespace RuleSet

/-- Makes rules in order; the first one whose written form cannot be read is an error. -/
def ofRules : List Rule → Except GateError (List Rule)
  | [] => .ok []
  | rule :: rest =>
    match rule.checked with
    | .error e => .error e
    | .ok rule => (ofRules rest).map (fun rules => rule :: rules)

/-- Makes the rules of the drift gate. -/
def forDocs (baseline : Option Version) (literals : List String) : Except GateError (List Rule) :=
  ofRules (Rule.forDocs baseline literals)

end RuleSet
end QualityGates
