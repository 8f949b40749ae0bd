import QualityGates.Pattern.CharSet

/-!
# Properties of characters by name

The sets of characters that a pattern may name after `\p`: general categories and their groups,
scripts, and a few properties. Names are compared loosely: case, blanks, hyphens, underscores and a
leading `is` make no difference.
-/

namespace QualityGates.Pattern

/-- A name in the form in which names are compared. -/
def looseName (cs : List Char) : String :=
  let bare := match cs with
    | i :: s :: rest => if i.toLower = 'i' && s.toLower = 's' then rest else cs
    | _ => cs
  let kept := (bare.filter (fun c => c.toNat < 128 && !" _-".toList.contains c)).map Char.toLower
  if kept = ['c'] && bare.length < cs.length then "isc" else String.ofList kept

/-- The union of general categories. -/
def categories (ks : List Text.Category) : CharSet :=
  .unions (ks.map CharSet.category)

/-- The general category, or group of them, with a name. -/
def category? (name : String) : Option CharSet :=
  match name with
  | "any" => some .every
  | "assigned" => some .assigned
  | "ascii" => some (.between '\x00' '\x7f')
  | "l" | "letter" => some (categories Text.letterCategories)
  | "lc" | "casedletter" =>
    some (categories [.uppercaseLetter, .lowercaseLetter, .titlecaseLetter])
  | "lu" | "uppercaseletter" => some (.category .uppercaseLetter)
  | "ll" | "lowercaseletter" => some (.category .lowercaseLetter)
  | "lt" | "titlecaseletter" => some (.category .titlecaseLetter)
  | "lm" | "modifierletter" => some (.category .modifierLetter)
  | "lo" | "otherletter" => some (.category .otherLetter)
  | "m" | "mark" | "combiningmark" => some (categories Text.markCategories)
  | "mn" | "nonspacingmark" => some (.category .nonspacingMark)
  | "mc" | "spacingmark" => some (.category .spacingMark)
  | "me" | "enclosingmark" => some (.category .enclosingMark)
  | "n" | "number" => some (categories Text.numberCategories)
  | "nd" | "decimalnumber" | "digit" => some .digit
  | "nl" | "letternumber" => some (.category .letterNumber)
  | "no" | "othernumber" => some (.category .otherNumber)
  | "p" | "punctuation" | "punct" => some (categories Text.punctuationCategories)
  | "pc" | "connectorpunctuation" => some (.category .connectorPunctuation)
  | "pd" | "dashpunctuation" => some (.category .dashPunctuation)
  | "ps" | "openpunctuation" => some (.category .openPunctuation)
  | "pe" | "closepunctuation" => some (.category .closePunctuation)
  | "pi" | "initialpunctuation" => some (.category .initialPunctuation)
  | "pf" | "finalpunctuation" => some (.category .finalPunctuation)
  | "po" | "otherpunctuation" => some (.category .otherPunctuation)
  | "s" | "symbol" => some (categories Text.symbolCategories)
  | "sm" | "mathsymbol" => some (.category .mathSymbol)
  | "sc" | "currencysymbol" => some (.category .currencySymbol)
  | "sk" | "modifiersymbol" => some (.category .modifierSymbol)
  | "so" | "othersymbol" => some (.category .otherSymbol)
  | "z" | "separator" => some (categories Text.separatorCategories)
  | "zs" | "spaceseparator" => some (.category .spaceSeparator)
  | "zl" | "lineseparator" => some (.category .lineSeparator)
  | "zp" | "paragraphseparator" => some (.category .paragraphSeparator)
  | "c" | "other" => some (.union (categories Text.otherCategories) (.complement .assigned))
  | "cc" | "control" | "cntrl" => some (.category .control)
  | "cf" | "format" => some (.category .format)
  | "co" | "privateuse" => some (.category .privateUse)
  | "cn" | "unassigned" => some (.complement .assigned)
  | _ => none

/-- The script with a name. -/
def script? (name : String) : Option CharSet :=
  match name with
  | "latin" | "latn" => some (.script .latin)
  | "greek" | "grek" => some (.script .greek)
  | "cyrillic" | "cyrl" => some (.script .cyrillic)
  | "armenian" | "armn" => some (.script .armenian)
  | "hebrew" | "hebr" => some (.script .hebrew)
  | "arabic" | "arab" => some (.script .arabic)
  | "devanagari" | "deva" => some (.script .devanagari)
  | "thai" => some (.script .thai)
  | "georgian" | "geor" => some (.script .georgian)
  | "hangul" | "hang" => some (.script .hangul)
  | "hiragana" | "hira" => some (.script .hiragana)
  | "katakana" | "kana" => some (.script .katakana)
  | "han" | "hani" => some (.script .han)
  | _ => none

/-- The property with a name that is neither a category nor a script. -/
def ownProperty? (name : String) : Option CharSet :=
  match name with
  | "alphabetic" | "alpha" => some .alphabetic
  | "uppercase" | "upper" => some .uppercase
  | "lowercase" | "lower" => some .lowercase
  | "whitespace" | "wspace" | "space" => some .blank
  | _ => none

/-- The set that a name stands for. -/
def property? (cs : List Char) : Option CharSet :=
  let name := looseName (cs.takeWhile (fun c => c != ':' && c != '='))
  match cs.dropWhile (fun c => c != ':' && c != '=') with
  | [] => (ownProperty? name).or ((category? name).or (script? name))
  | _ :: value =>
    match name with
    | "gc" | "generalcategory" => category? (looseName value)
    | "sc" | "script" => script? (looseName value)
    | _ => none

end QualityGates.Pattern
