import StreamScript.Text.CharClass

/-!
# Words with quotes

Arguments of a label are words divided by white space; double quotes keep white
space inside a word.  The quotes stay with the word until it is bound to a
variable, when those at its ends are taken off.
-/

namespace StreamScript.Text

/-- Takes every double quote off the front. -/
def dropQuotes (cs : List Char) : List Char :=
  cs.dropWhile (· == '"')

/-- Takes every double quote off both ends. -/
def stripQuotes (cs : List Char) : List Char :=
  (dropQuotes (dropQuotes cs).reverse).reverse

/-- A word, unless it is empty. -/
def wordIfAny (word : List Char) : List (List Char) :=
  if word.isEmpty then [] else [word]

/-- The words of a text, quotes included.  `inside` holds between quotes and `word` is the word
being read, the latest character first. -/
def quotedWordsFrom (inside : Bool) (word : List Char) : List Char → List (List Char)
  | [] => wordIfAny word.reverse
  | c :: rest =>
      if c = '"' then quotedWordsFrom (!inside) (c :: word) rest
      else if isBlank c && !inside then wordIfAny word.reverse ++ quotedWordsFrom false [] rest
      else quotedWordsFrom inside (c :: word) rest

/-- The words of a text; white space between quotes belongs to a word. -/
def quotedWords (cs : List Char) : List (List Char) :=
  quotedWordsFrom false [] cs

end StreamScript.Text
