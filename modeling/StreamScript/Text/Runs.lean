import StreamScript.Text.CodeSet

/-!
# Runs of the code space

What a standard assigns to every code point is mostly shared by neighbours, so an
assignment is stored as runs: a label with the number of code points that carry
it, laid end to end from code point zero.  There is no second copy of the
boundaries that could disagree with the first.

In run-length text a label is a capital letter followed by small ones, and the
length is written behind it in decimal digits when it is longer than one.
-/

namespace StreamScript
namespace Text

/-- An assignment to all code points, as lengths with what the code points of a run share. -/
abbrev Runs (α : Type) : Type := List (Nat × α)

namespace Runs

variable {α β : Type}

/-- Reads run-length text.  The run being read is kept as the letters of its label, the latest
first, and the digits seen so far; it is put out when the next label or the end arrives. -/
def read (label : List Char) (n : Nat) : List Char → Runs String
  | [] => if label.isEmpty then [] else [(max n 1, String.ofList label.reverse)]
  | c :: rest =>
      if c.isDigit then read label (10 * n + (c.toNat - 0x30)) rest
      else if c.isUpper && !label.isEmpty then
        (max n 1, String.ofList label.reverse) :: read [c] 0 rest
      else read (c :: label) 0 rest

/-- The runs of a run-length text that is broken into lines. -/
def ofText (lines : List String) : Runs String :=
  read [] 0 (String.join lines).toList

/-- Replaces the labels. -/
def relabel (f : α → β) (runs : Runs α) : Runs β :=
  runs.map fun run => (run.1, f run.2)

/-- What the `n`-th code point carries: a walk that subtracts lengths. -/
def at? : Runs α → Nat → Option α
  | [], _ => none
  | (len, a) :: rest, n => if n < len then some a else at? rest (n - len)

/-- The places where a test of what the code points carry changes its answer. -/
def changes (test : α → Bool) (inside : Bool) (place : Nat) : Runs α → List Nat
  | [] => []
  | (len, a) :: rest =>
      if test a = inside then changes test inside (place + len) rest
      else place :: changes test (!inside) (place + len) rest

/-- The set of the code points that pass a test of what they carry. -/
def toSet (test : α → Bool) (runs : Runs α) : CodeSet :=
  ⟨changes test false 0 runs⟩

end Runs

end Text
end StreamScript
