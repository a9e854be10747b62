import StreamScript.Text.LetterCase
import StreamScript.Text.Trim

/-!
# A forward-only cursor

A cursor stands somewhere in a text and only moves forward.  It keeps what is
left to read and how many bytes of the text, in its encoded form, lie behind it.
Each move returns what it passed over together with the cursor behind it, so a
reader built from moves cannot look back.
-/

namespace StreamScript
namespace Text

/-- A place in a text: the bytes passed and the characters left. -/
structure Cursor where
  position : Nat
  rest : List Char
  deriving DecidableEq, Repr

namespace Cursor

/-- A cursor at the start of a text. -/
def ofText (s : String) : Cursor :=
  ⟨0, s.toList⟩

/-- The number of bytes a stretch of characters takes when encoded. -/
def byteLength (cs : List Char) : Nat :=
  cs.foldr (fun c n => c.utf8Size + n) 0

/-- Moves over the first `n` characters. -/
def skip (n : Nat) (cur : Cursor) : Cursor :=
  ⟨cur.position + byteLength (cur.rest.take n), cur.rest.drop n⟩

/-- The next character. -/
def peek? (cur : Cursor) : Option Char :=
  cur.rest.head?

/-- The character after the next one. -/
def peekSecond? (cur : Cursor) : Option Char :=
  cur.rest.tail.head?

/-- Takes the next character. -/
def next? (cur : Cursor) : Option Char × Cursor :=
  (cur.peek?, cur.skip 1)

/-- Takes characters as long as they satisfy a predicate. -/
def takeWhile (p : Char → Bool) (cur : Cursor) : List Char × Cursor :=
  let taken := cur.rest.takeWhile p
  (taken, cur.skip taken.length)

/-- Takes the given character if it comes next. -/
def accept (c : Char) (cur : Cursor) : Bool × Cursor :=
  if cur.peek? = some c then (true, cur.skip 1) else (false, cur)

/-- Takes the given text if it comes next, up to the case of ASCII letters. -/
def acceptText (text : List Char) (cur : Cursor) : Bool × Cursor :=
  if eqIgnoringCase (cur.rest.take text.length) text then (true, cur.skip text.length)
  else (false, cur)

/-- Skips white space. -/
def skipBlanks (cur : Cursor) : Cursor :=
  (cur.takeWhile isBlank).2

/-- Skips white space and takes the word behind it. -/
def word (cur : Cursor) : List Char × Cursor :=
  cur.skipBlanks.takeWhile fun c => !isBlank c

/-- Takes everything that is left. -/
def toEnd (cur : Cursor) : List Char × Cursor :=
  (cur.rest, cur.skip cur.rest.length)

/-- Whether nothing is left. -/
def atEnd (cur : Cursor) : Bool :=
  cur.rest.isEmpty

end Cursor

end Text
end StreamScript
