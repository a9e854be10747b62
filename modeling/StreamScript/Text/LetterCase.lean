import StreamScript.Text.CaseTable
import StreamScript.Text.CharClass

/-!
# Letter case

Three notions of letter case meet in a script.  Keywords, file names and action
names are compared by the ASCII letters alone.  Label names and the case
functions use the full mapping, in which a small sharp s becomes two capitals
and a capital sigma becomes a final one at the end of a word.  Patterns compare
single characters: a set of characters is enlarged by all that differ only in
case from a member, which never changes the length of a text.
-/

namespace StreamScript
namespace Text

/-! ## ASCII letters -/

/-- Lowers the ASCII capitals and keeps everything else. -/
def lowerAscii (cs : List Char) : List Char :=
  cs.map Char.toLower

@[simp] theorem lowerAscii_nil : lowerAscii [] = [] := rfl

@[simp] theorem lowerAscii_cons (c : Char) (cs : List Char) :
    lowerAscii (c :: cs) = c.toLower :: lowerAscii cs := rfl

@[simp] theorem length_lowerAscii (cs : List Char) : (lowerAscii cs).length = cs.length := by
  simp [lowerAscii]

/-- Equality up to the case of ASCII letters. -/
def eqIgnoringCase (a b : List Char) : Bool :=
  lowerAscii a == lowerAscii b

/-- The ASCII-lowered form of a text. -/
def lowered (s : String) : String :=
  String.ofList (lowerAscii s.toList)

/-- Equality of texts up to the case of ASCII letters. -/
def sameName (a b : String) : Bool :=
  eqIgnoringCase a.toList b.toList

/-! ## The full mapping -/

/-- The image of a code point under the first row that covers it. -/
def mapRows (rows : List CaseRow) (n : Nat) : Option Nat :=
  rows.findSome? (·.image? n)

/-- The small form of one character, context aside. -/
def lowerChar (c : Char) : List Char :=
  if isAscii c then [c.toLower]
  else if c.toNat = 0x130 then ['i', Char.ofNat 0x307]
  else
    match mapRows lowerRows c.toNat with
    | some n => [Char.ofNat n]
    | none => [c]

/-- The capital form of one character. -/
def upperChar (c : Char) : List Char :=
  if isAscii c then [c.toUpper]
  else
    match upperExpansions.lookup c.toNat with
    | some ns => ns.map Char.ofNat
    | none =>
        match mapRows upperRows c.toNat with
        | some n => [Char.ofNat n]
        | none => [c]

/-- Whether the nearest character that is not looked through has a case. -/
def casedNext (cs : List Char) : Bool :=
  match cs.dropWhile isCaseIgnorable with
  | [] => false
  | c :: _ => isCased c

/-- Lowers a text from left to right; `before` is what has been read, the latest
character first.  A capital sigma takes its final form when a cased character
stands before it and none after it. -/
def lowerFrom (before : List Char) : List Char → List Char
  | [] => []
  | c :: rest =>
      let small :=
        if c.toNat = 0x3A3 then
          if casedNext before && !casedNext rest then [Char.ofNat 0x3C2] else [Char.ofNat 0x3C3]
        else lowerChar c
      small ++ lowerFrom (c :: before) rest

/-- The small form of a text. -/
def lowercase (cs : List Char) : List Char :=
  lowerFrom [] cs

/-- The capital form of a text. -/
def uppercase (cs : List Char) : List Char :=
  cs.flatMap upperChar

/-! ## Sets up to case -/

/-- Adds to a set what rows link to its members.  All links of a letter lead to one character, so
a step along the links and a step back reach every form. -/
def CodeSet.closeUnder (rows : List CaseRow) (s : CodeSet) : CodeSet :=
  let reached := s.union (s.image rows)
  reached.union (reached.image (rows.map (·.inverse)))

/-- Adds to a set every character that differs only in case from a member. -/
def CodeSet.caseless (s : CodeSet) : CodeSet :=
  s.closeUnder (lowerRows ++ variantRows)

/-- Adds to a set every ASCII letter that differs only in case from a member. -/
def CodeSet.asciiCaseless (s : CodeSet) : CodeSet :=
  s.closeUnder [(0x41, 0x5A, 1, 32)]

end Text
end StreamScript
