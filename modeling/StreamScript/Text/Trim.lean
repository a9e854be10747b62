import StreamScript.Text.CharClass

/-!
# Trimming and words

Script lines are read word by word, and every piece of text that a line carries
is trimmed before it is kept.  The functions here work on lists of characters;
each is pinned down by what it leaves at the ends of its result.
-/

namespace StreamScript
namespace Text

/-- Drops leading white space. -/
def trimStart (cs : List Char) : List Char :=
  cs.dropWhile isBlank

/-- Drops trailing white space. -/
def trimEnd (cs : List Char) : List Char :=
  (cs.reverse.dropWhile isBlank).reverse

/-- Drops white space at both ends. -/
def trim (cs : List Char) : List Char :=
  trimEnd (trimStart cs)

@[simp] theorem trimStart_nil : trimStart [] = [] := rfl

@[simp] theorem trimEnd_nil : trimEnd [] = [] := rfl

@[simp] theorem trim_nil : trim [] = [] := rfl

theorem length_trimStart_le (cs : List Char) : (trimStart cs).length ≤ cs.length :=
  (List.dropWhile_suffix _).length_le

theorem length_trimEnd_le (cs : List Char) : (trimEnd cs).length ≤ cs.length := by
  have h := (List.dropWhile_suffix (l := cs.reverse) isBlank).length_le
  simpa [trimEnd] using h

theorem length_trim_le (cs : List Char) : (trim cs).length ≤ cs.length :=
  Nat.le_trans (length_trimEnd_le _) (length_trimStart_le _)

/-- A trimmed copy of a text. -/
def trimmed (s : String) : String :=
  String.ofList (trim s.toList)

/-! ## Words -/

/-- Skips white space, then takes the word that follows; the second part is what
is left behind the word. -/
def nextWord (cs : List Char) : List Char × List Char :=
  ((trimStart cs).takeWhile fun c => !isBlank c, (trimStart cs).dropWhile fun c => !isBlank c)

theorem length_nextWord_rest_lt {cs : List Char} (h : (nextWord cs).1 ≠ []) :
    (nextWord cs).2.length < cs.length := by
  have hsum := congrArg List.length
    (List.takeWhile_append_dropWhile (p := fun c => !isBlank c) (l := trimStart cs))
  have hpos : 0 < (nextWord cs).1.length := List.length_pos_iff.mpr h
  have hle := length_trimStart_le cs
  simp only [List.length_append] at hsum
  simp only [nextWord] at hpos ⊢
  omega

/-- The words of a text: the stretches between white space. -/
def words (cs : List Char) : List (List Char) :=
  if _h : (nextWord cs).1 = [] then [] else (nextWord cs).1 :: words (nextWord cs).2
termination_by cs.length
decreasing_by exact length_nextWord_rest_lt _h

/-! ## Splitting at a character -/

/-- The pieces between the places where `sep` stands; there is always at least one. -/
def splitAt (sep : Char) : List Char → List (List Char)
  | [] => [[]]
  | c :: rest =>
      if c = sep then [] :: splitAt sep rest
      else
        match splitAt sep rest with
        | [] => [[c]]
        | piece :: more => (c :: piece) :: more

/-- Drops one carriage return from the end of a line. -/
def dropReturn (cs : List Char) : List Char :=
  if cs.getLast? = some '\r' then cs.dropLast else cs

/-- The lines of a text.  A line feed ends a line, a carriage return before it
belongs to the line break, and a text that ends in a line break has no further
line. -/
def lines (cs : List Char) : List (List Char) :=
  let pieces := splitAt '\n' cs
  let kept := if pieces.getLast? = some [] then pieces.dropLast else pieces
  match kept.reverse with
  | [] => []
  | last :: front =>
      let last := if kept.length < pieces.length then dropReturn last else last
      front.reverse.map dropReturn ++ [last]

end Text
end StreamScript
