/-!
# Scripts that run in circles

A script that jumps from label to label without ever waiting is stuck.  The guard
counts jumps that follow one another closely, and trips when there are too many.
-/

namespace StreamScript

/-- The jumps made in a row. -/
structure LoopGuard where
  count : Nat := 0
  /-- When the latest of them was made. -/
  last? : Option Nat := none
  deriving DecidableEq, Repr

namespace LoopGuard

/-- Takes note of a jump.  It is in a row with the one before if less than `window` lies between
them. -/
def record (g : LoopGuard) (window now : Nat) : LoopGuard :=
  let inRow := match g.last? with
    | some t => decide (now - t < window)
    | none => false
  { count := if inRow then g.count + 1 else 1, last? := some now }

/-- Whether there were more jumps in a row than allowed. -/
def tripped (g : LoopGuard) (limit : Nat) : Bool :=
  limit < g.count

end LoopGuard

end StreamScript
