import StreamScript.Text.Property.Derived
import StreamScript.Text.WritingSystem

/-!
# Units of text

Text falls into user-perceived characters, words and sentences.  Where one unit
ends and the next begins is decided by classes of code points, one classification
for each kind of unit.  A code point has at most one class of each kind; those
without one are never asked for by name.
-/

namespace StreamScript
namespace Text
namespace Property

open Category (nonspacingMark spacingMark enclosingMark)

/-- The carriage return. -/
def carriageReturn : CodeSet := .range 0x0D 0x0D

/-- The line feed. -/
def lineFeed : CodeSet := .range 0x0A 0x0A

/-- The joiner that holds a sequence of pictures together. -/
def joiner : CodeSet := .range 0x200D 0x200D

namespace Grapheme

/-! ## Perceived characters -/

/-- Controls, which stand alone. -/
def control : CodeSet :=
  ((Category.set [.lineSeparator, .paragraphSeparator, .control, .format]).union
      ((Category.set [.unassigned]).inter defaultIgnorable)).diff
    (.unions [carriageReturn, lineFeed, joiner, prependedConcatenationMark, graphemeExtend])

/-- What attaches to the character before. -/
def extend : CodeSet :=
  graphemeExtend.union emojiModifier

/-- What attaches to the character behind. -/
def prepend : CodeSet :=
  prependedConcatenationMark.union (.ofRanges
    [(0x0D4E, 0x0D4E), (0x111C2, 0x111C3), (0x113D1, 0x113D1), (0x1193F, 0x1193F),
     (0x11941, 0x11941), (0x11A3A, 0x11A3A), (0x11A84, 0x11A89), (0x11D46, 0x11D46),
     (0x11F02, 0x11F02)])

/-- Marks with a width of their own. -/
def spacing : CodeSet :=
  ((Category.set [spacingMark]).diff (extend.union (.ofRanges
    [(0x102B, 0x102C), (0x1038, 0x1038), (0x1062, 0x1064), (0x1067, 0x106D), (0x1083, 0x1083),
     (0x1087, 0x108C), (0x108F, 0x108F), (0x109A, 0x109C), (0x1A61, 0x1A61), (0x1A63, 0x1A64),
     (0xAA7B, 0xAA7B), (0xAA7D, 0xAA7D), (0x11720, 0x11721)]))).union
    (.ofRanges [(0x0E33, 0x0E33), (0x0EB3, 0x0EB3)])

/-- Leading consonants of Hangul. -/
def leading : CodeSet :=
  .ofRanges [(0x1100, 0x115F), (0xA960, 0xA97C)]

/-- Vowels of Hangul. -/
def vowel : CodeSet :=
  .ofRanges [(0x1160, 0x11A7), (0xD7B0, 0xD7C6), (0x16D63, 0x16D63), (0x16D67, 0x16D6A)]

/-- Trailing consonants of Hangul. -/
def trailing : CodeSet :=
  .ofRanges [(0x11A8, 0x11FF), (0xD7CB, 0xD7FB)]

/-- Syllables of Hangul without a trailing consonant: every 28th. -/
def openSyllable : CodeSet :=
  .ofRanges ((List.range 399).map fun i => (0xAC00 + 28 * i, 0xAC00 + 28 * i))

/-- Syllables of Hangul with a trailing consonant. -/
def closedSyllable : CodeSet :=
  (CodeSet.range 0xAC00 0xD7A3).diff openSyllable

/-- The class that a name in small letters stands for. -/
def class? : String → Option CodeSet
  | "cn" | "control" => some control
  | "cr" => some carriageReturn
  | "ex" | "extend" => some extend
  | "l" => some leading
  | "lf" => some lineFeed
  | "lv" => some openSyllable
  | "lvt" => some closedSyllable
  | "pp" | "prepend" => some prepend
  | "ri" | "regionalindicator" => some regionalIndicator
  | "sm" | "spacingmark" => some spacing
  | "t" => some trailing
  | "v" => some vowel
  | "zwj" => some joiner
  | _ => none

end Grapheme

namespace Word

/-! ## Words -/

/-- What attaches to the character before. -/
def extend : CodeSet :=
  .unions [graphemeExtend, Category.set [spacingMark], emojiModifier]

/-- Characters without an effect on words. -/
def format : CodeSet :=
  (Category.set [.format]).diff
    (.unions [prependedConcatenationMark, graphemeExtend, joiner, .range 0x200B 0x200B])

/-- Katakana and the marks that go with it. -/
def katakana : CodeSet :=
  (WritingSystem.set "Kana").union (.ofRanges
    [(0x3031, 0x3035), (0x309B, 0x309C), (0x30A0, 0x30A0), (0x30FC, 0x30FC), (0xFF70, 0xFF70)])

/-- Hebrew letters. -/
def hebrewLetter : CodeSet :=
  (WritingSystem.set "Hebr").inter (Category.set [.otherLetter])

/-- Writing systems that put no space between words. -/
def unspaced : CodeSet :=
  .unions (["Thai", "Laoo", "Mymr", "Khmr", "Tale", "Talu", "Lana", "Tavt", "Ahom", "Hira"].map
    WritingSystem.set)

/-- Letters of the writing systems that put spaces between words. -/
def letter : CodeSet :=
  (alphabetic.diff (.unions [ideographic, katakana, hebrewLetter, extend, unspaced])).union
    (.ofRanges
      [(0x02C2, 0x02C5), (0x02D2, 0x02D7), (0x02DE, 0x02DF), (0x02E5, 0x02EB), (0x02ED, 0x02ED),
       (0x02EF, 0x02FF), (0x055A, 0x055C), (0x055E, 0x055E), (0x058A, 0x058A), (0x05F3, 0x05F3),
       (0x070F, 0x070F), (0xA708, 0xA716), (0xA720, 0xA721), (0xA789, 0xA78A),
       (0xAB5B, 0xAB5B)])

/-- Digits, and the signs that span or divide them. -/
def numeric : CodeSet :=
  decimalDigit.union (.ofRanges
    [(0x0600, 0x0605), (0x066B, 0x066B), (0x06DD, 0x06DD), (0x0890, 0x0891), (0x08E2, 0x08E2),
     (0x19DA, 0x19DA), (0x110BD, 0x110BD), (0x110CD, 0x110CD)])

/-- Connectors of letters and digits. -/
def connector : CodeSet :=
  (Category.set [.connectorPunctuation]).union (.range 0x202F 0x202F)

/-- Line breaks other than the two ASCII ones. -/
def newline : CodeSet :=
  .ofRanges [(0x0B, 0x0C), (0x85, 0x85), (0x2028, 0x2029)]

/-- Spaces at which a line may break. -/
def space : CodeSet :=
  (Category.set [.spaceSeparator]).diff
    (.ofRanges [(0xA0, 0xA0), (0x2007, 0x2007), (0x202F, 0x202F)])

/-- The class that a name in small letters stands for. -/
def class? : String → Option CodeSet
  | "le" | "aletter" => some letter
  | "cr" => some carriageReturn
  | "dq" | "doublequote" => some (.range 0x22 0x22)
  | "extend" => some extend
  | "ex" | "extendnumlet" => some connector
  | "fo" | "format" => some format
  | "hl" | "hebrewletter" => some hebrewLetter
  | "ka" | "katakana" => some katakana
  | "lf" => some lineFeed
  | "ml" | "midletter" => some midLetter
  | "mn" | "midnum" => some midNum
  | "mb" | "midnumlet" => some midNumLet
  | "nl" | "newline" => some newline
  | "nu" | "numeric" => some numeric
  | "ri" | "regionalindicator" => some regionalIndicator
  | "sq" | "singlequote" => some (.range 0x27 0x27)
  | "wsegspace" => some space
  | "zwj" => some joiner
  | _ => none

end Word

namespace Sentence

/-! ## Sentences -/

/-- What attaches to the character before. -/
def extend : CodeSet :=
  .unions [graphemeExtend, Category.set [spacingMark], joiner]

/-- Characters without an effect on sentences. -/
def format : CodeSet :=
  ((Category.set [.format]).diff
    (.unions [prependedConcatenationMark, graphemeExtend, joiner])).union (.range 0x070F 0x070F)

/-- Separators of paragraphs. -/
def separator : CodeSet :=
  .ofRanges [(0x85, 0x85), (0x2028, 0x2029)]

/-- Spaces within a paragraph. -/
def space : CodeSet :=
  whiteSpace.diff (.unions [separator, carriageReturn, lineFeed])

/-- Letters that do not start a sentence. -/
def lower : CodeSet :=
  lowercase.diff (graphemeExtend.union smallGeorgian)

/-- Letters that start a sentence. -/
def upper : CodeSet :=
  (uppercase.union (Category.set [.titlecaseLetter])).diff
    (.ofRanges [(0x1C90, 0x1CBA), (0x1CBD, 0x1CBF)])

/-- Letters without a case. -/
def otherLetter : CodeSet :=
  (alphabetic.diff (.unions [lower, upper, extend])).union (.range 0x05F3 0x05F3)

/-- Digits, and the signs that span or divide them. -/
def numeric : CodeSet :=
  Word.numeric.union (.range 0x066C 0x066C)

/-- Full stops, which also mark abbreviations. -/
def fullStop : CodeSet :=
  .ofRanges [(0x2E, 0x2E), (0x2024, 0x2024), (0xFE52, 0xFE52), (0xFF0E, 0xFF0E)]

/-- Punctuation that ends a sentence and marks nothing else. -/
def terminator : CodeSet :=
  sentenceTerminal.diff fullStop

/-- Brackets and quotation marks. -/
def close : CodeSet :=
  (((Category.set [.openPunctuation, .closePunctuation, .initialPunctuation,
      .finalPunctuation]).union quotationMark).diff
    (.ofRanges [(0xFF02, 0xFF02), (0xFF07, 0xFF07)])).union
    (.ofRanges
      [(0x275B, 0x2760), (0x2E00, 0x2E01), (0x2E06, 0x2E08), (0x2E0B, 0x2E0B),
       (0x1F676, 0x1F678)])

/-- Punctuation behind which a sentence goes on. -/
def continuation : CodeSet :=
  .ofRanges
    [(0x2C, 0x2D), (0x3A, 0x3B), (0x037E, 0x037E), (0x055D, 0x055D), (0x060C, 0x060D),
     (0x07F8, 0x07F8), (0x1802, 0x1802), (0x1808, 0x1808), (0x2013, 0x2014), (0x3001, 0x3001),
     (0xFE10, 0xFE11), (0xFE13, 0xFE14), (0xFE31, 0xFE32), (0xFE50, 0xFE51), (0xFE54, 0xFE55),
     (0xFE58, 0xFE58), (0xFE63, 0xFE63), (0xFF0C, 0xFF0D), (0xFF1A, 0xFF1B), (0xFF64, 0xFF64)]

/-- The class that a name in small letters stands for. -/
def class? : String → Option CodeSet
  | "at" | "aterm" => some fullStop
  | "cl" | "close" => some close
  | "cr" => some carriageReturn
  | "ex" | "extend" => some extend
  | "fo" | "format" => some format
  | "le" | "oletter" => some otherLetter
  | "lf" => some lineFeed
  | "lo" | "lower" => some lower
  | "nu" | "numeric" => some numeric
  | "sc" | "scontinue" => some continuation
  | "se" | "sep" => some separator
  | "sp" => some space
  | "st" | "sterm" => some terminator
  | "up" | "upper" => some upper
  | _ => none

end Sentence

end Property
end Text
end StreamScript
