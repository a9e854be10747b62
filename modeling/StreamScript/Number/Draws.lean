/-!
# Random numbers

Of a number drawn at random between two others nothing is known but that it lies
between them.  So the numbers that scripts draw are given from outside, together with
the proof that they lie where they should, and what is shown of scripts is shown
whatever they draw.

A program has to get its numbers from somewhere.  `Draws.ofSeed` works them out from
a seed.
-/

namespace StreamScript

/-- The numbers drawn at random, one after another. -/
structure Draws where
  /-- The number drawn between two others, the ends included, when so many were drawn before. -/
  pick : Nat → Int → Int → Int
  le_pick (count : Nat) {lo hi : Int} (h : lo ≤ hi) : lo ≤ pick count lo hi
  pick_le (count : Nat) {lo hi : Int} (h : lo ≤ hi) : pick count lo hi ≤ hi

namespace Draws

/-- Draws that come from natural numbers, which may be as large as they like. -/
def ofNumbers (numbers : Nat → Nat) : Draws where
  pick count lo hi := lo + numbers count % (hi - lo + 1)
  le_pick count lo hi h := by
    have hrem := Int.emod_nonneg (numbers count) (show hi - lo + 1 ≠ 0 by omega)
    omega
  pick_le count lo hi h := by
    have hrem := Int.emod_lt_of_pos (numbers count) (show 0 < hi - lo + 1 by omega)
    omega

/-- Scatters the bits of a number. -/
def scatter (x : UInt64) : UInt64 :=
  let x := (x ^^^ (x >>> 30)) * 0xbf58476d1ce4e5b9
  let x := (x ^^^ (x >>> 27)) * 0x94d049bb133111eb
  x ^^^ (x >>> 31)

/-- Draws worked out from a seed. -/
def ofSeed (seed : UInt64) : Draws :=
  ofNumbers fun count => (scatter (seed + count.toUInt64 * 0x9e3779b97f4a7c15)).toNat

/-- Draws of its own for each of several scripts. -/
def share (draws : Draws) (id : Nat) : Draws where
  -- the pairs of a script and a count are numbered along the diagonals
  pick count := draws.pick ((id + count) * (id + count + 1) / 2 + count)
  le_pick _ _ _ h := draws.le_pick _ h
  pick_le _ _ _ h := draws.pick_le _ h

end Draws

end StreamScript
