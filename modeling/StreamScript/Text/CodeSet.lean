/-!
# Sets of code points

A set of code points is kept as the places where membership changes, in
increasing order: the first place is where the set begins, the second where it
stops for the first time, and so on; a set that never stops again reaches to the
end of the code space.  The letters of every script come to less than two
thousand places.

The representation makes the set operations one definition.  Whatever a set
operation does at a code point depends only on whether the point belongs to
either side, so one walk over the places of both sides, with the two answers as
its state, serves union, intersection and difference alike.  The complement only
changes what happens at zero.
-/

namespace StreamScript
namespace Text

/-- The last code point. -/
def lastCode : Nat := 0x10FFFF

/-- A set of code points, by the places where membership changes. -/
structure CodeSet where
  places : List Nat
  deriving DecidableEq, Repr

namespace CodeSet

/-! ## Membership -/

/-- Walks to a code point; `inside` tells whether the code points in front of the next place
belong to the set. -/
def insideAt (inside : Bool) : List Nat → Nat → Bool
  | [], _ => inside
  | place :: rest, n => if n < place then inside else insideAt (!inside) rest n

/-- Whether a code point belongs to a set. -/
def member (s : CodeSet) (n : Nat) : Bool :=
  insideAt false s.places n

/-- Whether a character belongs to a set. -/
def contains (s : CodeSet) (c : Char) : Bool :=
  s.member c.toNat

/-! ## Sets from ranges -/

/-- The set without members. -/
def empty : CodeSet := ⟨[]⟩

/-- The set of all code points. -/
def univ : CodeSet := ⟨[0]⟩

/-- The code points from `lo` to `hi`, both included. -/
def range (lo hi : Nat) : CodeSet := ⟨[lo, hi + 1]⟩

/-- The set with one member. -/
def single (c : Char) : CodeSet := range c.toNat c.toNat

/-- Joins ranges that follow in increasing order to the one from `lo` up to `stop`. -/
def joinFrom (lo stop : Nat) : List (Nat × Nat) → List Nat
  | [] => [lo, stop]
  | (first, last) :: rest =>
      if first ≤ stop then joinFrom lo (max stop (last + 1)) rest
      else lo :: stop :: joinFrom first (last + 1) rest

/-- The union of closed ranges, in any order. -/
def ofRanges (ranges : List (Nat × Nat)) : CodeSet :=
  match ranges.mergeSort fun r t => r.1 ≤ t.1 with
  | [] => empty
  | (lo, hi) :: rest => ⟨joinFrom lo (hi + 1) rest⟩

/-- Pairs the places of a set into closed ranges. -/
def pairs : List Nat → List (Nat × Nat)
  | [] => []
  | [lo] => [(lo, lastCode)]
  | lo :: stop :: rest => (lo, min (stop - 1) lastCode) :: pairs rest

/-- The closed ranges a set consists of, in increasing order. -/
def ranges (s : CodeSet) : List (Nat × Nat) :=
  (pairs s.places).filter fun r => r.1 ≤ lastCode

/-- Reads lengths that alternate between outside and inside, as decimal numbers with a space
between two of them. -/
def readLengths (place n : Nat) : List Char → List Nat
  | [] => [place + n]
  | c :: rest =>
      if c = ' ' then (place + n) :: readLengths (place + n) 0 rest
      else readLengths place (10 * n + (c.toNat - 0x30)) rest

/-- The set given by lengths that alternate between outside and inside, starting outside. -/
def ofLengths (lines : List String) : CodeSet :=
  ⟨readLengths 0 0 (" ".intercalate lines).toList⟩

/-! ## Set operations -/

/-- Puts a place in front; twice the same place is no change at all. -/
def flip (place : Nat) : List Nat → List Nat
  | [] => [place]
  | next :: rest => if place = next then rest else place :: next :: rest

/-- Walks the places of two sets in order, each with a mark that tells whose it is.  `a` and `b`
tell whether the walk is inside the first and the second set. -/
def walk (op : Bool → Bool → Bool) (a b : Bool) : List (Nat × Bool) → List Nat
  | [] => []
  | (place, second) :: rest =>
      let a' := a != !second
      let b' := b != second
      let more := walk op a' b' rest
      if op a' b' = op a b then more else flip place more

/-- The code points for which an operation holds of membership in two sets.  The operation must
not hold where the point is in neither. -/
def combine (op : Bool → Bool → Bool) (s t : CodeSet) : CodeSet :=
  let marked := List.merge (s.places.map (·, false)) (t.places.map (·, true))
    fun p q => p.1 ≤ q.1
  ⟨walk op false false marked⟩

/-- The code points of either set. -/
def union (s t : CodeSet) : CodeSet := combine (· || ·) s t

/-- The code points of both sets. -/
def inter (s t : CodeSet) : CodeSet := combine (· && ·) s t

/-- The code points of the first set that are not in the second. -/
def diff (s t : CodeSet) : CodeSet := combine (fun a b => a && !b) s t

/-- The code points of exactly one of the sets. -/
def symmDiff (s t : CodeSet) : CodeSet := combine (fun a b => a != b) s t

/-- The code points outside a set. -/
def compl (s : CodeSet) : CodeSet := ⟨flip 0 s.places⟩

/-- The union of a list of sets. -/
def unions (sets : List CodeSet) : CodeSet := sets.foldl union empty

/-- Whether a set has no member beyond ASCII. -/
def isAscii (s : CodeSet) : Bool :=
  s.ranges.all fun r => r.2 < 128

end CodeSet

end Text
end StreamScript
