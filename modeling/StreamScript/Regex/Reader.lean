import StreamScript.Number.Integer
import StreamScript.Regex.Bracket
import StreamScript.Regex.Size

/-!
# Reading patterns

The notation of patterns is read from left to right in one pass.  Inline flags
take effect where they stand and last to the end of the group that holds them,
so the reader applies them as it goes and the tree it builds no longer mentions
them.  Whatever the notation does not allow makes the whole pattern unreadable;
nobody asks which rule was broken.
-/

namespace StreamScript
namespace Regex

open Text Number

/-! ## Repetitions -/

/-- Reads a decimal number with white space around it. -/
def readBound? (fl : Flags) (cs : List Char) : Option (Nat × List Char) :=
  let (digits, rest) := fl.take Char.isDigit (cs.dropWhile isBlank)
  (readNat? 4294967295 digits).map fun n => (n, rest.dropWhile isBlank)

/-- Reads the bounds of a counted repetition from behind its brace. -/
def readBounds? (fl : Flags) (cs : List Char) : Option (Nat × Option Nat × List Char) :=
  (readBound? fl (fl.skip cs)).bind fun (least, rest) =>
    match rest with
    | '\x7d' :: rest => some (least, some least, rest)
    | ',' :: rest =>
        match fl.skip rest with
        | '\x7d' :: rest => some (least, none, rest)
        | rest =>
            (readBound? fl rest).bind fun (most, rest) =>
              match rest with
              | '\x7d' :: rest => if least ≤ most then some (least, some most, rest) else none
              | _ => none
    | _ => none

/-! ## Whole patterns -/

/-- A piece of a sequence: a pattern, or a place where flags were set.  `depth` counts how
deeply its parts are nested. -/
structure Item where
  node? : Option Node
  depth : Nat

/-- One level of the pattern: the alternatives completed and the sequence being read, both with
the latest first. -/
structure Level where
  alternatives : List Item := []
  items : List Item := []

namespace Level

/-- Puts a piece behind the sequence. -/
def push (lv : Level) (node : Node) (depth : Nat) : Level :=
  { lv with items := ⟨some node, depth⟩ :: lv.items }

/-- The greatest nesting among pieces. -/
def maxDepth (items : List Item) : Nat :=
  items.foldl (fun d item => max d item.depth) 0

/-- The sequence read so far as one piece. -/
def sequence (lv : Level) : Item :=
  let nodes := (lv.items.filterMap (·.node?)).reverse
  let depth := match lv.items with
    | [] => 0
    | [item] => item.depth
    | items => maxDepth items + 1
  ⟨some (.sequence (nodes.flatMap Node.parts)), depth⟩

/-- Ends an alternative. -/
def branch (lv : Level) : Level :=
  { alternatives := lv.sequence :: lv.alternatives, items := [] }

/-- The whole level as one piece. -/
def close (lv : Level) : Node × Nat :=
  let last := lv.sequence
  match lv.alternatives with
  | [] => (last.node?.getD .empty, last.depth)
  | earlier =>
      let pieces := (last :: earlier).reverse
      (.choice (pieces.map (·.node?.getD .empty)), maxDepth pieces + 1)

end Level

/-- A group that has been opened: its index when it captures, the flags to return to, and the
level it interrupts. -/
structure Opened where
  index? : Option Nat
  flags : Flags
  level : Level

/-- The reader's state. -/
structure ReaderState where
  flags : Flags
  level : Level := {}
  opened : List Opened := []
  captures : Nat := 0
  names : List (String × Nat) := []

namespace ReaderState

/-- Opens a group. -/
def openGroup (st : ReaderState) (index? : Option Nat) (flags : Flags) : ReaderState :=
  { st with
    flags := flags
    level := {}
    opened := ⟨index?, st.flags, st.level⟩ :: st.opened }

/-- Opens a group that captures. -/
def openCapture (st : ReaderState) : ReaderState :=
  { st.openGroup (some (st.captures + 1)) st.flags with captures := st.captures + 1 }

/-- Closes the innermost group. -/
def closeGroup? (st : ReaderState) : Option ReaderState :=
  match st.opened with
  | [] => none
  | group :: outer =>
      let (body, depth) := st.level.close
      let node := match group.index? with
        | some i => .capture i body
        | none => body
      some { st with
        flags := group.flags
        level := group.level.push node (depth + 1)
        opened := outer }

/-- Whether a character may stand in the name of a group. -/
def isNameChar (first : Bool) (c : Char) : Bool :=
  if first then c == '_' || isAlphabetic c
  else c == '_' || c == '.' || c == '[' || c == ']' || isAlphanumeric c

/-- Reads the name of a group and opens it. -/
def openNamed? (st : ReaderState) (cs : List Char) : Option (ReaderState × List Char) :=
  (cutAt? ['>'] cs).bind fun (name, rest) =>
    match name with
    | [] => none
    | c :: more =>
        if isNameChar true c && more.all (isNameChar false) then
          let text := String.ofList name
          if st.names.any (·.1 == text) then none
          else
            let st := st.openCapture
            some ({ st with names := (text, st.captures) :: st.names }, rest)
        else none

/-- Reads what follows an opening parenthesis. -/
def readGroup? (st : ReaderState) (cs : List Char) : Option (ReaderState × List Char) :=
  match st.flags.skip cs with
  | '?' :: '=' :: _ | '?' :: '!' :: _ | '?' :: '<' :: '=' :: _ | '?' :: '<' :: '!' :: _ => none
  | '?' :: 'P' :: '<' :: rest => st.openNamed? rest
  | '?' :: '<' :: rest => st.openNamed? rest
  | '?' :: rest =>
      (st.flags.read? [] false false rest).bind fun (flags, any, closed, rest) =>
        if closed then
          if any then
            let level := { st.level with items := ⟨none, 0⟩ :: st.level.items }
            some ({ st with flags := flags, level := level }, rest)
          else none
        else some (st.openGroup none flags, rest)
  | rest => some (st.openCapture, rest)

/-- Repeats the latest piece. -/
def repeat? (st : ReaderState) (least : Nat) (most : Option Nat) (greedy : Bool) :
    Option ReaderState :=
  match st.level.items with
  | ⟨some node, depth⟩ :: items =>
      let node := Node.repeated node least most (greedy != st.flags.swapGreed)
      some { st with level := { st.level with items := ⟨some node, depth + 1⟩ :: items } }
  | _ => none

/-- Reads the mark that makes a repetition prefer fewer rounds, and repeats. -/
def repeatMarked? (st : ReaderState) (least : Nat) (most : Option Nat) (cs : List Char) :
    Option (ReaderState × List Char) :=
  match cs with
  | '?' :: rest => (st.repeat? least most false).map (·, rest)
  | rest => (st.repeat? least most true).map (·, rest)

/-- The pattern of one literal character. -/
def literal (fl : Flags) (c : Char) : Node :=
  .set (fl.fold (.single c))

/-- The pattern of a full stop.  Without Unicode it would match parts of characters. -/
def dot? (fl : Flags) : Option Node :=
  if !fl.unicode then none
  else if fl.dotAll then some (.set .univ)
  else if fl.crlf then some (.set (CodeSet.ofRanges [(0x0A, 0x0A), (0x0D, 0x0D)]).compl)
  else some (.set (CodeSet.single '\n').compl)

/-- The test that a caret or dollar sign stands for. -/
def anchor (fl : Flags) (start : Bool) : Look :=
  match fl.multiLine, fl.crlf, start with
  | false, _, true => .textStart
  | false, _, false => .textEnd
  | true, false, true => .lineStart
  | true, false, false => .lineEnd
  | true, true, true => .breakStart
  | true, true, false => .breakEnd

/-- Puts a piece behind the sequence. -/
def push (st : ReaderState) (node : Node) (depth : Nat) : ReaderState :=
  { st with level := st.level.push node depth }

/-- Reads one piece of a pattern that starts with `c`. -/
def step? (st : ReaderState) (c : Char) (rest : List Char) : Option (ReaderState × List Char) :=
  match c with
  | '(' => st.readGroup? rest
  | ')' => st.closeGroup?.map (·, rest)
  | '|' => some ({ st with level := st.level.branch }, rest)
  | '[' => (readSet? st.flags rest).map fun (s, depth, rest) => (st.push (.set s) depth, rest)
  | '?' => st.repeatMarked? 0 (some 1) rest
  | '*' => st.repeatMarked? 0 none rest
  | '+' => st.repeatMarked? 1 none rest
  | '\x7b' =>
      match st.level.items with
      | ⟨some _, _⟩ :: _ =>
          (readBounds? st.flags rest).bind fun (least, most, rest) =>
            st.repeatMarked? least most (st.flags.skip rest)
      | _ => none
  | '\\' =>
      (readEscape? st.flags rest).map fun (escape, rest) =>
        match escape with
        | .literal c => (st.push (literal st.flags c) 0, rest)
        | .set s => (st.push (.set s) 0, rest)
        | .look l => (st.push (.look l) 0, rest)
  | '.' => (dot? st.flags).map fun n => (st.push n 0, rest)
  | '^' => some (st.push (.look (anchor st.flags true)) 0, rest)
  | '$' => some (st.push (.look (anchor st.flags false)) 0, rest)
  | c => some (st.push (literal st.flags c) 0, rest)

/-- Reads pieces until the text ends.  Every piece takes at least one character. -/
def readAll? : Nat → ReaderState → List Char → Option ReaderState
  | 0, _, _ => none
  | fuel + 1, st, cs =>
      match st.flags.skip cs with
      | [] => some st
      | c :: rest => (st.step? c rest).bind fun (st, rest) => readAll? fuel st rest

end ReaderState

/-- How deeply a pattern may be nested. -/
def maxDepth : Nat := 250

/-- Reads a pattern: its tree and the names of its groups. -/
def Node.read? (ignoreCase : Bool) (cs : List Char) : Option (Node × List (String × Nat)) :=
  let start : ReaderState := { flags := { ignoreCase := ignoreCase } }
  (start.readAll? (cs.length + 1) cs).bind fun st =>
    let (node, depth) := st.level.close
    if st.opened.isEmpty && depth ≤ maxDepth && node.fits then
      some (node, st.names)
    else none

end Regex
end StreamScript
