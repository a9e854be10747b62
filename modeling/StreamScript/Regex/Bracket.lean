import StreamScript.Regex.Escape

/-!
# Bracket expressions

A bracket expression lists characters, ranges, classes and further bracket
expressions, and joins such lists by set operations.  It is read from left to
right: the members of the list being read are collected, and an operation waits
with its left side until its right side is complete.  Operations have equal rank
and are done in the order in which they stand.

Along with the set the reader counts how deeply the expression is nested: lists
of two or more members, operations and brackets each add a level.
-/

namespace StreamScript
namespace Regex

open Text

/-! ## Members -/

/-- The list being read: the union of its members, their number, and the deepest nesting among
them. -/
structure Members where
  set : CodeSet := .empty
  count : Nat := 0
  depth : Nat := 0

namespace Members

/-- Adds a member. -/
def add (m : Members) (s : CodeSet) (depth : Nat) : Members :=
  ⟨m.set.union s, m.count + 1, max m.depth depth⟩

/-- How deeply the list is nested; a single member is no list. -/
def nesting (m : Members) : Nat :=
  if m.count ≤ 1 then m.depth else m.depth + 1

end Members

/-! ## Operations -/

/-- The operations between two sets in brackets. -/
inductive SetOp where
  | inter
  | diff
  | symmDiff

/-- Does an operation. -/
def SetOp.apply : SetOp → CodeSet → CodeSet → CodeSet
  | .inter => .inter
  | .diff => .diff
  | .symmDiff => .symmDiff

/-- An operation that waits for its right side. -/
structure Waiting where
  op : SetOp
  left : CodeSet
  depth : Nat

/-- Completes a list, and the operation that waits for it.  Both sides are brought to one case
before they are compared. -/
def complete (fl : Flags) (waiting : Option Waiting) (m : Members) : CodeSet × Nat :=
  match waiting with
  | none => (m.set, m.nesting)
  | some w => (w.op.apply (fl.fold w.left) (fl.fold m.set), max w.depth m.nesting + 1)

/-- Completes a list that is the left side of an operation. -/
def await (fl : Flags) (op : SetOp) (waiting : Option Waiting) (m : Members) : Option Waiting :=
  let (left, depth) := complete fl waiting m
  some ⟨op, left, depth⟩

/-! ## Reading -/

/-- Reads a named ASCII class behind its opening bracket.  The result is missing where no such
class stands, and holds nothing where the class may not be used. -/
def readAsciiClass? (fl : Flags) : List Char → Option (Option CodeSet × List Char)
  | ':' :: rest =>
      let (negated, rest) := match rest with
        | '^' :: more => (true, more)
        | _ => (false, rest)
      (cutAt? [':'] rest).bind fun (name, rest) =>
        match rest with
        | ']' :: rest =>
            (asciiClass? (String.ofList name)).map fun s =>
              (fl.negate? negated (fl.fold s), rest)
        | _ => none
  | _ => none

/-- Reads one character or class inside brackets. -/
def readSetItem? (fl : Flags) : List Char → Option (Escape × List Char)
  | [] => none
  | '\\' :: rest => readEscape? fl rest
  | c :: rest => some (.literal c, rest)

/-- The character that decides what a hyphen means, given the text behind it: a closing bracket
or a second hyphen makes the first one stand for itself.  In verbose notation white space is
looked through, and so is the sign that starts a comment, though not the comment. -/
def behindHyphen (fl : Flags) (cs : List Char) : Option Char :=
  if !fl.verbose then cs.head?
  else
    let rest := match cs.dropWhile isBlank with
      | '#' :: more => more.dropWhile isBlank
      | rest => rest
    rest.head?.or cs.head?

/-- The range between two characters.  Without Unicode both must belong to ASCII. -/
def rangeSet? (fl : Flags) (lo hi : Char) : Option CodeSet :=
  if !fl.unicode && !(isAscii lo && isAscii hi) then none
  else if lo ≤ hi then some (.range lo.toNat hi.toNat)
  else none

/-- The set that one item stands for. -/
def itemSet? (fl : Flags) : Escape → Option CodeSet
  | .literal c => rangeSet? fl c c
  | .set s => some s
  | .look _ => none

/-- Reads a character, a class or a range inside brackets. -/
def readSetRange? (fl : Flags) (cs : List Char) : Option (CodeSet × List Char) :=
  (readSetItem? fl cs).bind fun (item, rest) =>
    match fl.skip rest with
    | [] => none
    | '-' :: behind =>
        match behindHyphen fl behind with
        | some ']' | some '-' => (itemSet? fl item).map (·, '-' :: behind)
        | _ =>
            (readSetItem? fl (fl.skip behind)).bind fun (last, rest) =>
              match item, last with
              | .literal lo, .literal hi => (rangeSet? fl lo hi).map (·, rest)
              | _, _ => none
    | rest => (itemSet? fl item).map (·, rest)

/-- Reads what may stand first in brackets: a caret that negates, hyphens, and a closing
bracket that stands for itself. -/
def readSetHead (fl : Flags) (cs : List Char) : Bool × Members × List Char :=
  let (negated, cs) := match fl.skip cs with
    | '^' :: rest => (true, rest)
    | cs => (false, cs)
  match fl.take (· == '-') cs with
  | ([], ']' :: rest) => (negated, Members.add {} (.single ']') 0, rest)
  | (hyphens, rest) => (negated, hyphens.foldl (fun m c => m.add (.single c) 0) {}, rest)

/-- Reads a bracket expression from behind its head.  Every round takes a character, so the length
of the text bounds their number. -/
def readSetBody? (fl : Flags) :
    Nat → Bool → Members → Option Waiting → List Char → Option (CodeSet × Nat × List Char)
  | 0, _, _, _, _ => none
  | fuel + 1, negated, m, waiting, cs =>
      match fl.skip cs with
      | [] => none
      | ']' :: rest =>
          let (s, depth) := complete fl waiting m
          (fl.negate? negated (fl.fold s)).map fun s => (s, depth + 1, rest)
      | '[' :: rest =>
          match readAsciiClass? fl rest with
          | some (s, rest) =>
              s.bind fun s => readSetBody? fl fuel negated (m.add s 0) waiting rest
          | none =>
              let (innerNegated, head, rest) := readSetHead fl rest
              (readSetBody? fl fuel innerNegated head none rest).bind fun (s, depth, rest) =>
                readSetBody? fl fuel negated (m.add s depth) waiting rest
      | '&' :: '&' :: rest => readSetBody? fl fuel negated {} (await fl .inter waiting m) rest
      | '-' :: '-' :: rest => readSetBody? fl fuel negated {} (await fl .diff waiting m) rest
      | '~' :: '~' :: rest => readSetBody? fl fuel negated {} (await fl .symmDiff waiting m) rest
      | cs =>
          (readSetRange? fl cs).bind fun (s, rest) =>
            readSetBody? fl fuel negated (m.add s 0) waiting rest

/-- Reads a bracket expression from behind its opening bracket: its set, and how deeply it is
nested. -/
def readSet? (fl : Flags) (cs : List Char) : Option (CodeSet × Nat × List Char) :=
  let (negated, head, rest) := readSetHead fl cs
  readSetBody? fl (cs.length + 1) negated head none rest

end Regex
end StreamScript
