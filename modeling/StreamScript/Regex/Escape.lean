import StreamScript.Regex.Flags
import StreamScript.Regex.Node
import StreamScript.Text.Search

/-!
# Escapes

What follows a backslash stands for a character, for a set of characters, or for
a test of the place it stands at.
-/

namespace StreamScript
namespace Regex

open Text

/-- What an escape stands for. -/
inductive Escape where
  | literal (c : Char)
  | set (s : CodeSet)
  | look (l : Look)

/-- Characters that have a meaning of their own. -/
def isMeta (c : Char) : Bool :=
  "\\.+*?()|[]\x7b\x7d^$#&-~".toList.contains c

/-- Characters that a backslash leaves as they are. -/
def isEscapable (c : Char) : Bool :=
  isMeta c || (isAscii c && !c.isAlphanum && c != '<' && c != '>')

/-! ## Characters by number -/

/-- The value of a hexadecimal digit. -/
def hexValue? (c : Char) : Option Nat :=
  if c.isDigit then some (c.toNat - 0x30)
  else if 'a' ≤ c ∧ c ≤ 'f' then some (c.toNat - 0x61 + 10)
  else if 'A' ≤ c ∧ c ≤ 'F' then some (c.toNat - 0x41 + 10)
  else none

/-- The character with a given number. -/
def charOfNat? (n : Nat) : Option Char :=
  if n.isValidChar then some (Char.ofNat n) else none

/-- Reads exactly `n` hexadecimal digits. -/
def readHexDigits? (fl : Flags) : Nat → Nat → List Char → Option (Nat × List Char)
  | 0, acc, cs => some (acc, cs)
  | n + 1, acc, cs =>
      match cs with
      | [] => none
      | c :: rest => (hexValue? c).bind fun v => readHexDigits? fl n (16 * acc + v) (fl.skip rest)

/-- The value of hexadecimal digits; there must be one at least. -/
def hexNumber? (cs : List Char) : Option Nat :=
  if cs.isEmpty then none
  else cs.foldlM (fun acc c => (hexValue? c).map (16 * acc + ·)) 0

/-- Reads a character given by its number, with or without braces.  Without Unicode two digits
stand for a byte, and only those of ASCII are characters. -/
def readHex? (fl : Flags) (digits : Nat) (cs : List Char) : Option (Char × List Char) :=
  match fl.skip cs with
  | '\x7b' :: rest =>
      (fl.takeBraced? rest).bind fun (text, rest) =>
        ((hexNumber? text).bind charOfNat?).map fun c => (c, fl.skip rest)
  | cs =>
      (readHexDigits? fl digits 0 cs).bind fun (n, rest) =>
        if !fl.unicode && digits == 2 && 127 < n then none
        else (charOfNat? n).map fun c => (c, rest)

/-! ## Classes -/

/-- The set that the text between the braces of a property stands for, and whether the text asks
for what is unequal. -/
def propertyText? (text : List Char) : Option (CodeSet × Bool) :=
  match cutAt? ['!', '='] text, cutAt? [':'] text, cutAt? ['='] text with
  | some (key, value), _, _ => (propertyValueSet? key value).map (·, true)
  | none, some (key, value), _ => (propertyValueSet? key value).map (·, false)
  | none, none, some (key, value) => (propertyValueSet? key value).map (·, false)
  | none, none, none => (propertySet? text).map (·, false)

/-- Reads the name of a property: one letter, or a text in braces. -/
def readProperty? (fl : Flags) (negated : Bool) (cs : List Char) : Option (CodeSet × List Char) :=
  if !fl.unicode then none
  else
    match fl.skip cs with
    | [] => none
    | '\\' :: _ => none
    | '\x7b' :: rest =>
        (fl.takeBraced? rest).bind fun (text, rest) =>
          (propertyText? text).bind fun (s, unequal) =>
            (fl.negate? (negated != unequal) (fl.fold s)).map (·, rest)
    | c :: rest =>
        (propertySet? [c]).bind fun s => (fl.negate? negated (fl.fold s)).map (·, rest)

/-- The class of a one-letter escape.  A capital asks for the complement. -/
def classEscape? (fl : Flags) (c : Char) : Option CodeSet :=
  match c with
  | 'd' | 'D' =>
      fl.negate? (c == 'D') (if fl.unicode then Property.decimalDigit else .range 0x30 0x39)
  | 's' | 'S' => fl.negate? (c == 'S') (if fl.unicode then Property.whiteSpace else asciiSpace)
  | 'w' | 'W' => fl.negate? (c == 'W') (if fl.unicode then Property.word else asciiWord)
  | _ => none

/-! ## Tests -/

/-- A test by the words that the flags mean. -/
def wordLook (fl : Flags) (test : WordTest) : Escape :=
  .look (.word test (if fl.unicode then .all else .ascii))

/-- The test of a name that stands in braces behind `\b`. -/
def boundaryNamed? (name : String) : Option WordTest :=
  match name with
  | "start" => some .start
  | "end" => some .stop
  | "start-half" => some .startHalf
  | "end-half" => some .stopHalf
  | _ => none

/-- Reads the name of a word boundary behind `\b`.  A brace that starts no name is left
alone: it belongs to a repetition. -/
def readBoundary? (fl : Flags) (cs : List Char) : Option (Escape × List Char) :=
  let isNameChar (c : Char) : Bool := c.isAlpha || c == '-'
  match cs with
  | '\x7b' :: rest =>
      match fl.take isNameChar rest with
      | (_, []) => none
      | ([], _) => some (wordLook fl .boundary, cs)
      | (name, c :: rest) =>
          if c = '\x7d' then
            (boundaryNamed? (String.ofList name)).map fun test => (wordLook fl test, rest)
          else none
  | _ => some (wordLook fl .boundary, cs)

/-! ## All escapes -/

/-- Reads what follows a backslash. -/
def readEscape? (fl : Flags) : List Char → Option (Escape × List Char)
  | [] => none
  | c :: rest =>
      let literal (found : Option (Char × List Char)) : Option (Escape × List Char) :=
        found.map fun (c, rest) => (.literal c, rest)
      let set (found : Option (CodeSet × List Char)) : Option (Escape × List Char) :=
        found.map fun (s, rest) => (.set s, rest)
      match c with
      | 'x' => literal (readHex? fl 2 rest)
      | 'u' => literal (readHex? fl 4 rest)
      | 'U' => literal (readHex? fl 8 rest)
      | 'p' => set (readProperty? fl false rest)
      | 'P' => set (readProperty? fl true rest)
      | 'd' | 'D' | 's' | 'S' | 'w' | 'W' => set ((classEscape? fl c).map (·, rest))
      | 'a' => some (.literal (Char.ofNat 7), rest)
      | 'f' => some (.literal (Char.ofNat 12), rest)
      | 't' => some (.literal '\t', rest)
      | 'n' => some (.literal '\n', rest)
      | 'r' => some (.literal '\r', rest)
      | 'v' => some (.literal (Char.ofNat 11), rest)
      | 'A' => some (.look .textStart, rest)
      | 'z' => some (.look .textEnd, rest)
      | 'b' => readBoundary? fl rest
      | 'B' => some (wordLook fl .notBoundary, rest)
      | '<' => some (wordLook fl .start, rest)
      | '>' => some (wordLook fl .stop, rest)
      | _ => if isEscapable c then some (.literal c, rest) else none

end Regex
end StreamScript
