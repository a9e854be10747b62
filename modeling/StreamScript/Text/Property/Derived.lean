import StreamScript.Text.CaseTable
import StreamScript.Text.CharClass

/-!
# Properties that follow from others

Most properties of characters are unions of general categories, corrected by one
of the lists of `Text.Property.Listed`.  They are written here as the sets they
are, so that each line is the definition of the property.
-/

namespace StreamScript
namespace Text
namespace Property

open Category (nonspacingMark spacingMark enclosingMark)

/-! ## Letters and case -/

/-- White space. -/
def whiteSpace : CodeSet :=
  .ofRanges blankRanges

/-- Decimal digits of every script. -/
def decimalDigit : CodeSet :=
  Category.set [.decimalNumber]

/-- Small letters and small symbols. -/
def lowercase : CodeSet :=
  (Category.set [.lowercaseLetter]).union otherLowercase

/-- Capital letters and capital symbols. -/
def uppercase : CodeSet :=
  (Category.set [.uppercaseLetter]).union otherUppercase

/-- Letters, letter numbers, and the marks and symbols that count as letters. -/
def alphabetic : CodeSet :=
  .unions [Category.set (.letterNumber :: Category.letters), otherAlphabetic, lowercase, uppercase]

/-- Characters that words are made of when a pattern looks for them: alphabetic characters,
marks, decimal digits, connectors, and the two joiners. -/
def word : CodeSet :=
  .unions
    [alphabetic, Category.set (.decimalNumber :: .connectorPunctuation :: Category.marks),
     joinControl]

/-- Characters that have a case. -/
def cased : CodeSet :=
  .unions [lowercase, uppercase, Category.set [.titlecaseLetter]]

/-- Characters that are looked through when the case of a neighbour matters. -/
def caseIgnorable : CodeSet :=
  .unions
    [Category.set [nonspacingMark, enclosingMark, .format, .modifierLetter, .modifierSymbol],
     midLetter, midNumLet, .range 0x27 0x27]

/-- The code points that rows cover. -/
def domain (rows : List CaseRow) : CodeSet :=
  CodeSet.univ.image (rows.map (·.still))

/-- Characters with a small form other than themselves. -/
def changesWhenLowercased : CodeSet :=
  (domain lowerRows).union (.range 0x0130 0x0130)

/-- Characters with a capital form other than themselves. -/
def changesWhenUppercased : CodeSet :=
  (domain upperRows).union (.ofRanges (upperExpansions.map fun entry => (entry.1, entry.1)))

/-- Small letters of Georgian.  They have capitals, but those never start a word or a sentence. -/
def smallGeorgian : CodeSet :=
  .ofRanges [(0x10D0, 0x10FA), (0x10FD, 0x10FF)]

/-- Capital forms of two letters in one. -/
def capitalDigraph : CodeSet :=
  .ofRanges [(0x01C4, 0x01C4), (0x01C7, 0x01C7), (0x01CA, 0x01CA), (0x01F1, 0x01F1)]

/-- Characters that change at the start of a word. -/
def changesWhenTitlecased : CodeSet :=
  (changesWhenUppercased.diff ((Category.set [.titlecaseLetter]).union smallGeorgian)).union
    capitalDigraph

/-- Characters that change under some map of case. -/
def changesWhenCasemapped : CodeSet :=
  .unions [changesWhenLowercased, changesWhenUppercased, changesWhenTitlecased]

/-- Characters that change when a text is brought to a form without case.  Cherokee is folded to
its capitals. -/
def changesWhenCasefolded : CodeSet :=
  (changesWhenLowercased.diff (.range 0x13A0 0x13F5)).union foldedForms

/-! ## Mathematics -/

/-- Mathematical characters. -/
def math : CodeSet :=
  (Category.set [.mathSymbol]).union otherMath

/-! ## Units of text -/

/-- Characters that attach to the one before them. -/
def graphemeExtend : CodeSet :=
  (Category.set [nonspacingMark, enclosingMark]).union otherGraphemeExtend

/-- Characters that others attach to. -/
def graphemeBase : CodeSet :=
  ((Category.set (.lineSeparator :: .paragraphSeparator :: Category.others)).union
    graphemeExtend).compl

/-- Code points that are shown as nothing where they are not supported. -/
def defaultIgnorable : CodeSet :=
  (CodeSet.unions [otherDefaultIgnorable, Category.set [.format], variationSelector]).diff
    (.unions [whiteSpace, prependedConcatenationMark,
      .ofRanges [(0xFFF9, 0xFFFB), (0x13430, 0x13440)]])

/-! ## Identifiers -/

/-- Characters that identifiers never contain, whatever else holds of them. -/
def patternReserved : CodeSet :=
  patternSyntax.union patternWhiteSpace

/-- Characters that an identifier may start with. -/
def idStart : CodeSet :=
  ((Category.set (.letterNumber :: Category.letters)).union otherIdStart).diff patternReserved

/-- Characters that an identifier may contain. -/
def idContinue : CodeSet :=
  (CodeSet.unions
    [idStart, otherIdContinue,
     Category.set [nonspacingMark, spacingMark, .decimalNumber, .connectorPunctuation]]).diff
    patternReserved

/-- Characters of identifiers whose compatible forms are not. -/
def incompatible : CodeSet :=
  .ofRanges
    [(0x037A, 0x037A), (0x309B, 0x309C), (0xFC5E, 0xFC63), (0xFDFA, 0xFDFB), (0xFE70, 0xFE70),
     (0xFE72, 0xFE72), (0xFE74, 0xFE74), (0xFE76, 0xFE76), (0xFE78, 0xFE78), (0xFE7A, 0xFE7A),
     (0xFE7C, 0xFE7C), (0xFE7E, 0xFE7E)]

/-- Characters that an identifier may contain and whose compatible forms it may contain, too. -/
def xidContinue : CodeSet :=
  idContinue.diff incompatible

/-- Characters that an identifier may start with and whose compatible forms start one, too. -/
def xidStart : CodeSet :=
  idStart.diff
    (incompatible.union (.ofRanges [(0x0E33, 0x0E33), (0x0EB3, 0x0EB3), (0xFF9E, 0xFF9F)]))

end Property
end Text
end StreamScript
