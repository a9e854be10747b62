import StreamScript.Regex.Property
import StreamScript.Text.LetterCase

/-!
# Patterns as trees

A pattern is built from sets of characters, tests of the place between two
characters, groups, sequences, alternatives and repetitions.  Alternatives and
repetitions are ordered: the earlier alternative is preferred, and a repetition
prefers more rounds when it is greedy and fewer when it is not.
-/

namespace StreamScript
namespace Regex

open Text

/-- Which characters words are made of. -/
inductive WordChars where
  /-- The letters, marks and digits of every script. -/
  | all
  /-- The ASCII letters and digits. -/
  | ascii
  deriving DecidableEq, Repr

/-- The characters themselves. -/
def WordChars.set : WordChars → CodeSet
  | .all => Property.word
  | .ascii => asciiWord

/-- Tests of the place between two characters by their belonging to words. -/
inductive WordTest where
  | boundary
  | notBoundary
  | start
  | stop
  /-- No word goes on from before. -/
  | startHalf
  /-- No word goes on behind. -/
  | stopHalf
  deriving DecidableEq, Repr

/-- Whether the test holds where `before` and `after` tell whether the neighbours belong to
words. -/
def WordTest.holds (test : WordTest) (before after : Bool) : Bool :=
  match test with
  | .boundary => before != after
  | .notBoundary => before == after
  | .start => !before && after
  | .stop => before && !after
  | .startHalf => !before
  | .stopHalf => !after

/-- Tests of the place between two characters. -/
inductive Look where
  | textStart
  | textEnd
  | lineStart
  | lineEnd
  /-- Line ends at carriage returns as well. -/
  | breakStart
  | breakEnd
  | word (test : WordTest) (chars : WordChars)
  deriving DecidableEq, Repr

/-- Whether the test holds between the characters `before` and `after`, either of
which is missing at an end of the text. -/
def Look.holds (look : Look) (before after : Option Char) : Bool :=
  match look with
  | .textStart => before.isNone
  | .textEnd => after.isNone
  | .lineStart => before.isNone || before == some '\n'
  | .lineEnd => after.isNone || after == some '\n'
  | .breakStart =>
      before.isNone || before == some '\n' || (before == some '\r' && after != some '\n')
  | .breakEnd =>
      after.isNone || after == some '\r' || (after == some '\n' && before != some '\r')
  | .word test chars => test.holds (before.any chars.set.contains) (after.any chars.set.contains)

/-- A pattern. -/
inductive Node where
  | empty
  | set (s : CodeSet)
  | look (l : Look)
  /-- A group that remembers what it matched under an index. -/
  | capture (index : Nat) (body : Node)
  | seq (first second : Node)
  | alt (preferred other : Node)
  | rep (body : Node) (least : Nat) (most : Option Nat) (greedy : Bool)
  deriving DecidableEq, Repr

namespace Node

/-- Whether the pattern can match the empty text. -/
def nullable : Node → Bool
  | .empty | .look _ => true
  | .set _ => false
  | .capture _ n => n.nullable
  | .seq a b => a.nullable && b.nullable
  | .alt a b => a.nullable || b.nullable
  | .rep n least _ _ => least == 0 || n.nullable

/-- Whether the pattern matches nothing but the empty text. -/
def onlyEmpty : Node → Bool
  | .empty | .look _ => true
  | .set _ => false
  | .capture _ n => n.onlyEmpty
  | .seq a b => a.onlyEmpty && b.onlyEmpty
  | .alt a b => a.onlyEmpty && b.onlyEmpty
  | .rep n _ most _ => most == some 0 || n.onlyEmpty

/-- A repetition in its simplest form.  What matches only the empty text need not be
tried twice, no rounds at all are the empty pattern, and one round is the body. -/
def repeated (body : Node) (least : Nat) (most : Option Nat) (greedy : Bool) : Node :=
  let (least, most) :=
    if body.onlyEmpty then (min least 1, some (min (most.getD 1) 1)) else (least, most)
  if least = 0 ∧ most = some 0 then .empty
  else if least = 1 ∧ most = some 1 then body
  else .rep body least most greedy

/-! ## Sequences and choices -/

/-- The parts that a sequence is made of. -/
def parts : Node → List Node
  | .empty => []
  | .seq a b => a.parts ++ b.parts
  | n => [n]

/-- Parts one behind the other. -/
def sequence : List Node → Node
  | [] => .empty
  | [n] => n
  | n :: rest => .seq n (sequence rest)

/-- The alternatives that a choice is made of. -/
def branches : Node → List Node
  | .alt a b => a.branches ++ b.branches
  | n => [n]

/-- The union of alternatives that are all sets. -/
def joined? : List Node → Option CodeSet
  | [] => some .empty
  | .set s :: rest => (joined? rest).map s.union
  | _ => none

/-- A choice between alternatives, the preferred one first.  Sets are one set. -/
def oneOf (ns : List Node) : Node :=
  let ns := ns.flatMap branches
  match joined? ns with
  | some s => .set s
  | none => ns.dropLast.foldr .alt (ns.getLastD .empty)

/-- The parts that two sequences begin with alike. -/
def commonParts : List Node → List Node → List Node
  | a :: as, b :: bs => if a = b then a :: commonParts as bs else []
  | _, _ => []

/-- A choice in its simplest form.  When every alternative is a sequence and all of them begin
alike, what they begin with comes before the choice: its own preferences then outrank those
between the alternatives. -/
def choice (ns : List Node) : Node :=
  let ns := ns.flatMap branches
  match ns.map parts with
  | first :: rest =>
      let front := rest.foldl commonParts first
      if !rest.isEmpty && !front.isEmpty && (first :: rest).all (2 ≤ ·.length) then
        sequence (front ++ [oneOf ((first :: rest).map fun ps => sequence (ps.drop front.length))])
      else oneOf ns
  | [] => oneOf ns

/-- The highest index of a group. -/
def maxGroup : Node → Nat
  | .empty | .set _ | .look _ => 0
  | .capture i n => max i n.maxGroup
  | .seq a b | .alt a b => max a.maxGroup b.maxGroup
  | .rep n _ _ _ => n.maxGroup

end Node

end Regex
end StreamScript
