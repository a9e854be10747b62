import StreamScript.Regex.Program
import StreamScript.Regex.Reader

/-!
# Matching

The machine of a compiled pattern is run on all its threads at once, in order of
preference.  A thread that reaches the end settles the match unless a preferred
one is still running, and a step that some preferred thread has already reached
at a place need not be reached there again.  The work per character is therefore
bounded by the size of the pattern, whatever the pattern is.

Of all matches the one that starts first is taken, and of those the one the
preferences single out.
-/

namespace StreamScript
namespace Regex

open Text

/-- Where the groups of a match begin and end, counted in characters; even places hold
beginnings, odd ones ends. -/
abbrev Slots : Type := Array (Option Nat)

/-- A thread: the step it stands at, and the places it remembers. -/
structure Thread where
  step : Nat
  slots : Slots

namespace Program

/-- Follows the steps that take no character, the preferred ones first.  `todo` holds the threads
still to be followed and `ready` those that wait for a character or have reached the end, the latest
first.  Every step is entered at most once, so twice the number of steps bounds the work. -/
def follow (prog : Program) (before after : Option Char) (place : Nat) :
    Nat → List Thread → Array Bool → List Thread → Array Bool × List Thread
  | 0, _, seen, ready => (seen, ready)
  | _, [], seen, ready => (seen, ready)
  | fuel + 1, t :: todo, seen, ready =>
      if seen.getD t.step true then prog.follow before after place fuel todo seen ready
      else
        let seen := seen.setIfInBounds t.step true
        match prog.steps[t.step]? with
        | none => prog.follow before after place fuel todo seen ready
        | some (.char ..) | some .accept =>
            prog.follow before after place fuel todo seen (t :: ready)
        | some (.look l next) =>
            if l.holds before after then
              prog.follow before after place fuel ({ t with step := next } :: todo) seen ready
            else prog.follow before after place fuel todo seen ready
        | some (.save slot next) =>
            let slots := t.slots.setIfInBounds slot (some place)
            prog.follow before after place fuel (⟨next, slots⟩ :: todo) seen ready
        | some (.split a b) =>
            prog.follow before after place fuel
              ({ t with step := a } :: { t with step := b } :: todo) seen ready

/-- Follows the given threads from scratch; the result is in order of preference. -/
def settle (prog : Program) (before after : Option Char) (place : Nat) (todo : List Thread) :
    List Thread :=
  let fuel := 2 * prog.steps.size + todo.length + 1
  let fresh := Array.replicate prog.steps.size false
  (prog.follow before after place fuel todo fresh []).2.reverse

/-- Moves threads over one character.  Threads behind one that has reached the end are dropped:
it is preferred to all of them. -/
def advance (prog : Program) (c : Char) :
    List Thread → List Thread × Option Slots
  | [] => ([], none)
  | t :: rest =>
      match prog.steps[t.step]? with
      | some .accept => ([], some t.slots)
      | some (.char s next) =>
          let (moved, found) := prog.advance c rest
          if s.contains c then ({ t with step := next } :: moved, found) else (moved, found)
      | _ => prog.advance c rest

/-- The places of a thread that has reached the end, if there is one. -/
def finished? (prog : Program) (threads : List Thread) : Option Slots :=
  (threads.find? fun t =>
    match prog.steps[t.step]? with
    | some .accept => true
    | _ => false).map (·.slots)

/-- The thread that starts a match. -/
def initial (prog : Program) : Thread :=
  ⟨prog.entry, Array.replicate (2 * prog.groups) none⟩

/-- Runs the threads over the rest of the text.  A new match may start at every place until one has
been found. -/
def run (prog : Program) (place : Nat) (threads : List Thread) (best : Option Slots) :
    List Char → Option Slots
  | [] => (prog.finished? threads).or best
  | c :: rest =>
      let (moved, found) := prog.advance c threads
      let best := found.or best
      let todo := if best.isNone then moved ++ [prog.initial] else moved
      if todo.isEmpty then best
      else run prog (place + 1) (prog.settle (some c) rest.head? (place + 1) todo) best rest

/-- The first match at or behind a place.  `before` is the character in front of it. -/
def searchFrom (prog : Program) (before : Option Char) (place : Nat) (rest : List Char) :
    Option Slots :=
  prog.run place (prog.settle before rest.head? place [prog.initial]) none rest

/-- The first match in a text. -/
def search (prog : Program) (cs : List Char) : Option Slots :=
  prog.searchFrom none 0 cs

end Program

/-- The stretch of text between two remembered places. -/
def Slots.group (slots : Slots) (cs : List Char) (i : Nat) : Option (List Char) :=
  match slots.getD (2 * i) none, slots.getD (2 * i + 1) none with
  | some lo, some hi => some ((cs.drop lo).take (hi - lo))
  | _, _ => none

/-- Where the whole match begins and ends. -/
def Slots.span (slots : Slots) : Nat × Nat :=
  ((slots.getD 0 none).getD 0, (slots.getD 1 none).getD 0)

namespace Program

/-- The groups of the first match, the whole match first; a group that took no part is empty. -/
def captures? (prog : Program) (text : String) : Option (List String) :=
  let cs := text.toList
  (prog.search cs).map fun slots =>
    (List.range prog.groups).map fun i => String.ofList ((slots.group cs i).getD [])

/-! ## Replacing -/

/-- The group a reference in a template means, by number or by name. -/
def resolve? (prog : Program) (name : List Char) : Option Nat :=
  match Number.readNat? 4294967295 name with
  | some i => some i
  | none => prog.names.lookup (String.ofList name)

/-- Whether a character may stand in a reference without braces. -/
def isReferenceChar (c : Char) : Bool :=
  c.isAlphanum || c == '_'

/-- Expands the references of a template: a dollar sign and a name, with or without braces.  Two
dollar signs stand for one. -/
def expand (prog : Program) (slots : Slots) (cs : List Char) : Nat → List Char → List Char
  | 0, _ => []
  | _, [] => []
  | fuel + 1, c :: rest =>
      if c ≠ '$' then c :: prog.expand slots cs fuel rest
      else
        let group (name : List Char) : List Char :=
          ((prog.resolve? name).bind (slots.group cs)).getD []
        match rest with
        | '$' :: rest => '$' :: prog.expand slots cs fuel rest
        | '\x7b' :: more =>
            match cutAt? ['\x7d'] more with
            | some (name, rest) => group name ++ prog.expand slots cs fuel rest
            | none => '$' :: prog.expand slots cs fuel rest
        | _ =>
            match rest.takeWhile isReferenceChar with
            | [] => '$' :: prog.expand slots cs fuel rest
            | name => group name ++ prog.expand slots cs fuel (rest.drop name.length)

/-- Replaces all matches from a place on.  `copied` is the place up to which the text has been put
out, and `lastEnd` the end of the match before: an empty match right there is passed over. -/
def replaceFrom (prog : Program) (template cs : List Char) :
    Nat → Nat → Nat → Option Nat → List Char
  | 0, copied, _, _ => cs.drop copied
  | fuel + 1, copied, place, lastEnd =>
      if cs.length < place then cs.drop copied
      else
        let before := if place = 0 then none else cs[place - 1]?
        match prog.searchFrom before place (cs.drop place) with
        | none => cs.drop copied
        | some slots =>
            let (lo, hi) := slots.span
            if lo = hi ∧ lastEnd = some hi then
              prog.replaceFrom template cs fuel copied (place + 1) none
            else
              (cs.drop copied).take (lo - copied)
                ++ prog.expand slots cs (template.length + 1) template
                ++ prog.replaceFrom template cs fuel hi hi (some hi)

/-- Replaces every match by the expanded template. -/
def replaceAll (prog : Program) (text template : String) : String :=
  let cs := text.toList
  String.ofList (prog.replaceFrom template.toList cs (2 * cs.length + 2) 0 0 none)

end Program

/-- Compiles the text of a pattern. -/
def compile? (ignoreCase : Bool) (src : String) : Option Program :=
  (Node.read? ignoreCase src.toList).map fun (node, names) => node.compile names

end Regex
end StreamScript
