import StreamScript.Text.Search

/-!
# Many literal targets at once

While a script waits for one of several texts, every incoming line is held
against all of them.  What matters is which of the targets present in the line
was registered first, wherever in the line it stands.
-/

namespace StreamScript

open Text

/-- Literal targets in the order of their registration. -/
structure LiteralSet where
  targets : List String
  deriving DecidableEq, Repr

namespace LiteralSet

/-- The number of targets. -/
def size (set : LiteralSet) : Nat :=
  set.targets.length

/-- The least index of a target that occurs in the line. -/
def firstMatch? (set : LiteralSet) (line : String) : Option Nat :=
  set.targets.findIdx? fun target => occursIn target line

end LiteralSet

end StreamScript
