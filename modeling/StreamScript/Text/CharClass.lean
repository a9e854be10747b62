import StreamScript.Text.Category
import StreamScript.Text.Property.Listed

/-!
# Character classes

The classes of characters that scripts are read with: white space, letters and
digits, capitals, and the characters that can stand for themselves in a quoted
text.  Beyond ASCII a class is a union of general categories together with a
list of what the categories miss; within ASCII it is decided by arithmetic
alone, so that a fact about an ASCII character never unfolds a table.
-/

namespace StreamScript
namespace Text

/-- Whether a code point lies in one of the closed ranges. -/
def inRanges : List (Nat × Nat) → Nat → Bool
  | [], _ => false
  | (lo, hi) :: rest, n => (lo ≤ n && n ≤ hi) || inRanges rest n

/-- Whether a character belongs to the first 128. -/
def isAscii (c : Char) : Bool :=
  c.toNat < 128

/-! ## White space -/

/-- The white-space characters. -/
def blankRanges : List (Nat × Nat) :=
  [(0x0009, 0x000D), (0x0020, 0x0020), (0x0085, 0x0085), (0x00A0, 0x00A0), (0x1680, 0x1680),
   (0x2000, 0x200A), (0x2028, 0x2029), (0x202F, 0x202F), (0x205F, 0x205F), (0x3000, 0x3000)]

/-- White space: the blanks, tabs and line breaks of every script. -/
def isBlank (c : Char) : Bool :=
  inRanges blankRanges c.toNat

/-! ## Letters and digits -/

namespace Category

/-- Letters of any kind. -/
def isLetter (cat : Category) : Bool :=
  letters.contains cat

/-- Numbers of any kind. -/
def isNumber (cat : Category) : Bool :=
  numbers.contains cat

/-- Separators, controls and code points without a character: what cannot stand
for itself in a quoted text. -/
def isInvisible (cat : Category) : Bool :=
  separators.contains cat || others.contains cat

end Category

/-- Alphabetic characters: letters, letter numbers, and the marks and symbols that count as
letters. -/
def isAlphabetic (c : Char) : Bool :=
  if isAscii c then c.isAlpha
  else
    let cat := Category.ofChar c
    cat.isLetter || cat == .letterNumber || Property.otherAlphabetic.contains c

/-- Letters and numbers of every script. -/
def isAlphanumeric (c : Char) : Bool :=
  if isAscii c then c.isAlphanum
  else isAlphabetic c || (Category.ofChar c).isNumber

/-- Capital letters and capital symbols. -/
def isUppercase (c : Char) : Bool :=
  if isAscii c then c.isUpper
  else Category.ofChar c == .uppercaseLetter || Property.otherUppercase.contains c

/-- Small letters and small symbols. -/
def isLowercase (c : Char) : Bool :=
  if isAscii c then c.isLower
  else Category.ofChar c == .lowercaseLetter || Property.otherLowercase.contains c

/-! ## The neighbours of a capital sigma -/

/-- Characters that have a case. -/
def isCased (c : Char) : Bool :=
  isLowercase c || isUppercase c || Category.ofChar c == .titlecaseLetter

/-- Characters that are looked through when the case of a neighbour matters. -/
def isCaseIgnorable (c : Char) : Bool :=
  let cat := Category.ofChar c
  cat == .nonspacingMark || cat == .enclosingMark || cat == .format
    || cat == .modifierLetter || cat == .modifierSymbol
    || c.toNat == 0x27 || Property.midLetter.contains c || Property.midNumLet.contains c

/-! ## Characters in a quoted text -/

/-- Characters that attach to the one before them and so cannot be shown alone. -/
def isExtender (c : Char) : Bool :=
  !isAscii c
    && (let cat := Category.ofChar c
        cat == .nonspacingMark || cat == .enclosingMark
          || Property.otherGraphemeExtend.contains c)

/-- Characters that show themselves: all but separators, controls and unassigned
code points, with the plain space as the one separator that counts. -/
def isVisible (c : Char) : Bool :=
  if isAscii c then 0x20 ≤ c.toNat && c.toNat < 0x7F
  else !(Category.ofChar c).isInvisible

end Text
end StreamScript
