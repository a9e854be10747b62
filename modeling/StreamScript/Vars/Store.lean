import StreamScript.Number.Real
import StreamScript.Text.Trim
import StreamScript.Vars.Bindings
import StreamScript.Vars.Clock

/-!
# The global store

Global variables are shared by every script.  Some are computed: they are fixed
when the store is made, their value is worked out whenever it is read, and a
write to them is ignored.  All others are literal.

A write takes effect only when it changes something, and then it emits one
change.  The changes are therefore a faithful log: applied in order to the
literal variables at the start, they give those at the end.
-/

namespace StreamScript

open Text Number

/-- A variable whose value is worked out on reading. -/
structure Computed where
  /-- The value at a moment, if there is one then. -/
  value : Moment → Option String

namespace Computed

/-- Always the same value, or none. -/
def fixed (value : Option String) : Computed :=
  ⟨fun _ => value⟩

/-- The time, written by a format. -/
def clock (fmt : String) : Computed :=
  ⟨fun now => now.write? fmt⟩

end Computed

/-- An effective write: the new value of a key, or `none` when it was removed. -/
structure Change where
  key : String
  value : Option String
  deriving DecidableEq, Repr

/-- The global variables.  `now` is the moment at which the clock is read. -/
structure Store where
  computed : Bindings Computed
  literals : Bindings String := .empty
  now : Moment := ⟨1970, 1, 1, 0, 0, 0⟩

namespace Store

/-- A store with no variables. -/
def empty : Store :=
  { computed := .empty }

/-- A store with the given computed variables. -/
def ofComputed (vars : List (String × Computed)) : Store :=
  { computed := .ofList vars }

/-- The clock variables, written by the given formats. -/
def clockVariables (date time datetime : String) : List (String × Computed) :=
  [("date", .clock date), ("time", .clock time), ("datetime", .clock datetime)]

/-- The clock variables as they are usually written. -/
def usualClock : List (String × Computed) :=
  clockVariables "%Y-%m-%d" "%I:%M:%S %p" "%Y-%m-%d %I:%M:%S %p"

/-- Whether a key is computed. -/
def isComputed (s : Store) (key : String) : Bool :=
  s.computed.contains key

/-- The value of a key. -/
def get? (s : Store) (key : String) : Option String :=
  match s.computed.get? key with
  | some c => c.value s.now
  | none => s.literals.get? key

/-- The value of a key read as a number. -/
def number? (s : Store) (key : String) : Option Float :=
  (s.get? key).bind fun v => readFloat? (trim v.toList)

/-- Writes a key.  The change is there exactly when the write took effect. -/
def set (s : Store) (key value : String) : Option Change × Store :=
  if s.isComputed key || s.literals.get? key == some value then (none, s)
  else (some ⟨key, some value⟩, { s with literals := s.literals.insert key value })

/-- Removes a key.  The change is there exactly when the key was a literal one. -/
def remove (s : Store) (key : String) : Option Change × Store :=
  if s.isComputed key || !s.literals.contains key then (none, s)
  else (some ⟨key, none⟩, { s with literals := s.literals.erase key })

/-- Writes several keys in order. -/
def setAll (s : Store) (vars : List (String × String)) : Store :=
  vars.foldl (fun s e => (s.set e.1 e.2).2) s

/-- Every key with its value, if it has one just now. -/
def listing (s : Store) : Bindings (Option String) :=
  let start : Bindings (Option String) :=
    s.literals.entries.foldl (fun b e => b.insert e.1 (some e.2)) .empty
  s.computed.entries.foldl (fun b e => b.insert e.1 (e.2.value s.now)) start

/-- Whether a key is there, with a value or without. -/
def contains (s : Store) (key : String) : Bool :=
  s.isComputed key || s.literals.contains key

/-- All keys in order. -/
def keys (s : Store) : List String :=
  s.listing.keys

/-- All keys that have a value, with it, in order. -/
def toList (s : Store) : List (String × String) :=
  s.listing.toList.filterMap fun e => e.2.map fun v => (e.1, v)

/-- The number of keys. -/
def size (s : Store) : Nat :=
  s.listing.size

/-- The store as diagnostics show it. -/
def describe (s : Store) : String :=
  "VariableStore \x7b len: " ++ String.ofList (natText s.size) ++ " \x7d"

end Store

/-! ## Listening to changes -/

/-- The changes a listener has not taken yet.  Only the latest are kept; the others are counted. -/
structure Feed where
  pending : List Change := []
  lost : Nat := 0
  deriving DecidableEq, Repr

namespace Feed

/-- The number of changes kept at most. -/
def capacity : Nat := 256

/-- Adds a change, at the expense of the oldest when there is no room. -/
def push (feed : Feed) (change : Change) : Feed :=
  if feed.pending.length < capacity then { feed with pending := feed.pending ++ [change] }
  else { pending := feed.pending.tail ++ [change], lost := feed.lost + 1 }

/-- Adds the change of a write that may have had none. -/
def record (feed : Feed) (change : Option Change) : Feed :=
  match change with
  | some c => feed.push c
  | none => feed

end Feed

end StreamScript
