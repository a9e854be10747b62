import StreamScript.Text.Age
import StreamScript.Text.Property.Segment

/-!
# Named properties

The names by which a pattern can ask for a property of characters.  A name on its
own is that of a property that holds or does not hold, of a general category, or
of a writing system, in that order.  A key with a value asks for a category, a
writing system, an age, or a class that divides text into units.

Names are compared without regard to case, spaces, hyphens and underscores, and
`is` in front of a name means nothing.
-/

namespace StreamScript
namespace Regex

open Text

/-! ## Spelling -/

/-- Drops `is` at the front, in any case. -/
def dropIs : List Char → List Char
  | first :: second :: rest =>
      if first.toLower = 'i' ∧ second.toLower = 's' then rest else first :: second :: rest
  | cs => cs

/-- The spelling in which names are compared.  What is not ASCII is passed over; `isc` is kept as
it stands and names nothing. -/
def canonicalName (cs : List Char) : String :=
  let bare := dropIs cs
  let kept := bare.filter fun c => isAscii c && c != ' ' && c != '_' && c != '-'
  let name := String.ofList (kept.map Char.toLower)
  if name == "c" && bare.length < cs.length then "isc" else name

/-! ## Properties that hold or do not hold -/

/-- The property that a name stands for. -/
def plainProperty? : String → Option CodeSet
  | "ahex" | "asciihexdigit" => some Property.asciiHexDigit
  | "alpha" | "alphabetic" => some Property.alphabetic
  | "bidic" | "bidicontrol" => some Property.bidiControl
  | "bidim" | "bidimirrored" => some Property.bidiMirrored
  | "ci" | "caseignorable" => some Property.caseIgnorable
  | "cased" => some Property.cased
  | "cwcf" | "changeswhencasefolded" => some Property.changesWhenCasefolded
  | "cwcm" | "changeswhencasemapped" => some Property.changesWhenCasemapped
  | "cwl" | "changeswhenlowercased" => some Property.changesWhenLowercased
  | "cwt" | "changeswhentitlecased" => some Property.changesWhenTitlecased
  | "cwu" | "changeswhenuppercased" => some Property.changesWhenUppercased
  | "dash" => some Property.dash
  | "di" | "defaultignorablecodepoint" => some Property.defaultIgnorable
  | "dep" | "deprecated" => some Property.deprecated
  | "dia" | "diacritic" => some Property.diacritic
  | "emoji" => some Property.emoji
  | "ecomp" | "emojicomponent" => some Property.emojiComponent
  | "emod" | "emojimodifier" => some Property.emojiModifier
  | "ebase" | "emojimodifierbase" => some Property.emojiModifierBase
  | "epres" | "emojipresentation" => some Property.emojiPresentation
  | "extpict" | "extendedpictographic" => some Property.extendedPictographic
  | "ext" | "extender" => some Property.extender
  | "grbase" | "graphemebase" => some Property.graphemeBase
  | "grext" | "graphemeextend" => some Property.graphemeExtend
  | "grlink" | "graphemelink" => some Property.graphemeLink
  | "hex" | "hexdigit" => some Property.hexDigit
  | "hyphen" => some Property.hyphen
  | "idsb" | "idsbinaryoperator" => some Property.idsBinaryOperator
  | "idst" | "idstrinaryoperator" => some Property.idsTrinaryOperator
  | "idsu" | "idsunaryoperator" => some Property.idsUnaryOperator
  | "idcompatmathcontinue" => some Property.idCompatMathContinue
  | "idcompatmathstart" => some Property.idCompatMathStart
  | "idc" | "idcontinue" => some Property.idContinue
  | "ids" | "idstart" => some Property.idStart
  | "ideo" | "ideographic" => some Property.ideographic
  | "joinc" | "joincontrol" => some Property.joinControl
  | "loe" | "logicalorderexception" => some Property.logicalOrderException
  | "lower" | "lowercase" => some Property.lowercase
  | "math" => some Property.math
  | "mcm" | "modifiercombiningmark" => some Property.modifierCombiningMark
  | "nchar" | "noncharactercodepoint" => some Property.noncharacter
  | "oalpha" | "otheralphabetic" => some Property.otherAlphabetic
  | "odi" | "otherdefaultignorablecodepoint" => some Property.otherDefaultIgnorable
  | "ogrext" | "othergraphemeextend" => some Property.otherGraphemeExtend
  | "oidc" | "otheridcontinue" => some Property.otherIdContinue
  | "oids" | "otheridstart" => some Property.otherIdStart
  | "olower" | "otherlowercase" => some Property.otherLowercase
  | "omath" | "othermath" => some Property.otherMath
  | "oupper" | "otheruppercase" => some Property.otherUppercase
  | "patsyn" | "patternsyntax" => some Property.patternSyntax
  | "patws" | "patternwhitespace" => some Property.patternWhiteSpace
  | "pcm" | "prependedconcatenationmark" => some Property.prependedConcatenationMark
  | "qmark" | "quotationmark" => some Property.quotationMark
  | "radical" => some Property.radical
  | "ri" | "regionalindicator" => some Property.regionalIndicator
  | "sterm" | "sentenceterminal" => some Property.sentenceTerminal
  | "sd" | "softdotted" => some Property.softDotted
  | "term" | "terminalpunctuation" => some Property.terminalPunctuation
  | "uideo" | "unifiedideograph" => some Property.unifiedIdeograph
  | "upper" | "uppercase" => some Property.uppercase
  | "vs" | "variationselector" => some Property.variationSelector
  | "space" | "wspace" | "whitespace" => some Property.whiteSpace
  | "xidc" | "xidcontinue" => some Property.xidContinue
  | "xids" | "xidstart" => some Property.xidStart
  | _ => none

/-! ## Categories -/

/-- The categories a name stands for.  Surrogates are no characters and have no name. -/
def categories? : String → Option (List Category)
  | "lu" | "uppercaseletter" => some [.uppercaseLetter]
  | "ll" | "lowercaseletter" => some [.lowercaseLetter]
  | "lt" | "titlecaseletter" => some [.titlecaseLetter]
  | "lm" | "modifierletter" => some [.modifierLetter]
  | "lo" | "otherletter" => some [.otherLetter]
  | "lc" | "casedletter" => some Category.casedLetters
  | "l" | "letter" => some Category.letters
  | "mn" | "nonspacingmark" => some [.nonspacingMark]
  | "mc" | "spacingmark" => some [.spacingMark]
  | "me" | "enclosingmark" => some [.enclosingMark]
  | "m" | "mark" | "combiningmark" => some Category.marks
  | "nd" | "decimalnumber" | "digit" => some [.decimalNumber]
  | "nl" | "letternumber" => some [.letterNumber]
  | "no" | "othernumber" => some [.otherNumber]
  | "n" | "number" => some Category.numbers
  | "pc" | "connectorpunctuation" => some [.connectorPunctuation]
  | "pd" | "dashpunctuation" => some [.dashPunctuation]
  | "ps" | "openpunctuation" => some [.openPunctuation]
  | "pe" | "closepunctuation" => some [.closePunctuation]
  | "pi" | "initialpunctuation" => some [.initialPunctuation]
  | "pf" | "finalpunctuation" => some [.finalPunctuation]
  | "po" | "otherpunctuation" => some [.otherPunctuation]
  | "p" | "punct" | "punctuation" => some Category.punctuation
  | "sm" | "mathsymbol" => some [.mathSymbol]
  | "sc" | "currencysymbol" => some [.currencySymbol]
  | "sk" | "modifiersymbol" => some [.modifierSymbol]
  | "so" | "othersymbol" => some [.otherSymbol]
  | "s" | "symbol" => some Category.symbols
  | "zs" | "spaceseparator" => some [.spaceSeparator]
  | "zl" | "lineseparator" => some [.lineSeparator]
  | "zp" | "paragraphseparator" => some [.paragraphSeparator]
  | "z" | "separator" => some Category.separators
  | "cc" | "control" | "cntrl" => some [.control]
  | "cf" | "format" => some [.format]
  | "co" | "privateuse" => some [.privateUse]
  | "cn" | "unassigned" => some [.unassigned]
  | "c" | "other" => some Category.others
  | _ => none

/-- The set of a general category, or of one of the three sets that go with them. -/
def categorySet? (name : String) : Option CodeSet :=
  match name with
  | "any" => some .univ
  | "ascii" => some (.range 0 127)
  | "assigned" => some (Category.set [.unassigned]).compl
  | _ => (categories? name).map Category.set

/-- The set of a writing system. -/
def writingSystemSet? (name : String) : Option CodeSet :=
  (WritingSystem.code? name).map WritingSystem.set

/-! ## Looking up -/

/-- The set that a name stands for. -/
def propertySet? (cs : List Char) : Option CodeSet :=
  let name := canonicalName cs
  ((plainProperty? name).or (categorySet? name)).or (writingSystemSet? name)

/-- The set that a key with a value stands for. -/
def propertyValueSet? (key value : List Char) : Option CodeSet :=
  let value := canonicalName value
  match canonicalName key with
  | "gc" | "generalcategory" => categorySet? value
  | "sc" | "script" => writingSystemSet? value
  | "scx" | "scriptextensions" => (WritingSystem.code? value).map WritingSystem.users
  | "age" => (Age.version? value).map Age.set
  | "gcb" | "graphemeclusterbreak" => Property.Grapheme.class? value
  | "wb" | "wordbreak" => Property.Word.class? value
  | "sb" | "sentencebreak" => Property.Sentence.class? value
  | _ => none

/-! ## ASCII classes -/

/-- The ASCII letters and digits and the underscore. -/
def asciiWord : CodeSet :=
  .ofRanges [(0x30, 0x39), (0x41, 0x5A), (0x5F, 0x5F), (0x61, 0x7A)]

/-- The ASCII white space. -/
def asciiSpace : CodeSet :=
  .ofRanges [(0x09, 0x0D), (0x20, 0x20)]

/-- The ASCII classes that stand between `[:` and `:]`. -/
def asciiClass? : String → Option CodeSet
  | "alnum" => some (.ofRanges [(0x30, 0x39), (0x41, 0x5A), (0x61, 0x7A)])
  | "alpha" => some (.ofRanges [(0x41, 0x5A), (0x61, 0x7A)])
  | "ascii" => some (.range 0 127)
  | "blank" => some (.ofRanges [(0x09, 0x09), (0x20, 0x20)])
  | "cntrl" => some (.ofRanges [(0x00, 0x1F), (0x7F, 0x7F)])
  | "digit" => some (.range 0x30 0x39)
  | "graph" => some (.range 0x21 0x7E)
  | "lower" => some (.range 0x61 0x7A)
  | "print" => some (.range 0x20 0x7E)
  | "punct" => some (.ofRanges [(0x21, 0x2F), (0x3A, 0x40), (0x5B, 0x60), (0x7B, 0x7E)])
  | "space" => some asciiSpace
  | "upper" => some (.range 0x41 0x5A)
  | "word" => some asciiWord
  | "xdigit" => some (.ofRanges [(0x30, 0x39), (0x41, 0x46), (0x61, 0x66)])
  | _ => none

end Regex
end StreamScript
