import StreamScript.Regex.Node

/-!
# Compiled patterns

A pattern is run as a small machine.  Its steps test a character, test a place,
remember a place, or choose between two continuations, the first of which is
preferred.  Steps are laid out back to front: each is emitted when the step
behind it is already known, and only a loop leaves a hole that is filled in once
its body has been emitted.

A loop over a body that can match the empty text is laid out as an optional
group of one or more rounds.  Written as a plain loop it would offer the way out
before the body whenever the body matched nothing, and the order of preference
would be lost.
-/

namespace StreamScript
namespace Regex

/-- One step of a compiled pattern. -/
inductive Step where
  | char (s : Text.CodeSet) (next : Nat)
  | look (l : Look) (next : Nat)
  | save (slot : Nat) (next : Nat)
  | split (preferred other : Nat)
  | accept
  deriving Repr

/-- A layout under construction. -/
abbrev Layout : Type := Array Step

namespace Layout

/-- Adds a step and tells its place. -/
def emit (code : Layout) (s : Step) : Nat × Layout :=
  (code.size, code.push s)

/-- A choice that goes on when `greedy`, and stops otherwise. -/
def choice (greedy : Bool) (again stop : Nat) : Step :=
  if greedy then .split again stop else .split stop again

/-- Emits a block `n` times, each copy continuing at the one emitted before it. -/
def copies (block : Nat → Layout → Nat × Layout) : Nat → Nat → Layout → Nat × Layout
  | 0, next, code => (next, code)
  | n + 1, next, code =>
      let (entry, code) := block next code
      copies block n entry code

/-- Emits a block up to `n` times; every copy may be skipped straight to `stop`. -/
def optionals (block : Nat → Layout → Nat × Layout) (greedy : Bool) (stop : Nat) :
    Nat → Nat → Layout → Nat × Layout
  | 0, next, code => (next, code)
  | n + 1, next, code =>
      let (body, code) := block next code
      let (entry, code) := code.emit (choice greedy body stop)
      optionals block greedy stop n entry code

/-- Emits a loop of one or more rounds: the entry of its body and the choice behind it. -/
def loop (block : Nat → Layout → Nat × Layout) (greedy : Bool) (next : Nat) (code : Layout) :
    Nat × Nat × Layout :=
  let (hole, code) := code.emit .accept
  let (body, code) := block hole code
  (body, hole, code.setIfInBounds hole (choice greedy body next))

end Layout

namespace Node

/-- Emits a pattern in front of the step at `next`; the result is the place of its entry. -/
def emit : Node → Nat → Layout → Nat × Layout
  | .empty, next, code => (next, code)
  | .set s, next, code => code.emit (.char s next)
  | .look l, next, code => code.emit (.look l next)
  | .capture i body, next, code =>
      let (close, code) := code.emit (.save (2 * i + 1) next)
      let (entry, code) := body.emit close code
      code.emit (.save (2 * i) entry)
  | .seq a b, next, code =>
      let (entry, code) := b.emit next code
      a.emit entry code
  | .alt a b, next, code =>
      let (first, code) := a.emit next code
      let (second, code) := b.emit next code
      code.emit (.split first second)
  | .rep body least most greedy, next, code =>
      match most with
      | some most =>
          let (entry, code) := Layout.optionals body.emit greedy next (most - least) next code
          Layout.copies body.emit least entry code
      | none =>
          let (entry, hole, code) := Layout.loop body.emit greedy next code
          if least = 0 then
            if body.nullable then code.emit (Layout.choice greedy entry next) else (hole, code)
          else Layout.copies body.emit (least - 1) entry code

end Node

/-- A compiled pattern. -/
structure Program where
  steps : Array Step
  entry : Nat
  /-- The number of groups, the whole match included. -/
  groups : Nat
  names : List (String × Nat)

/-- Compiles a pattern; the whole match is group zero. -/
def Node.compile (node : Node) (names : List (String × Nat)) : Program :=
  let (done, code) := Layout.emit #[] .accept
  let (entry, code) := (Node.capture 0 node).emit done code
  ⟨code, entry, node.maxGroup + 1, names⟩

end Regex
end StreamScript
