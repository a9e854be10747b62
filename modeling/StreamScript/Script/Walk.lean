import StreamScript.Program.Basic

/-!
# Walking a program

A script stands in front of the line it will run next.  It also remembers which
conditionals are open, the innermost first, and of each whether a branch of its
chain has run.

There is no tree of blocks.  A branch that is not taken is passed over line by
line, keeping track of the blocks opened on the way; those are held apart from
the ones open before, so that passing over a block that closes leaves the latter
as they were by construction.  (A walk with one stack of both that is not taken
below the depth it had at first comes to the same, `skipBlock_eq_skipOnStack`.)
-/

namespace StreamScript

/-- An open conditional. -/
structure Frame where
  /-- The index of the line that opened it. -/
  line : Nat
  /-- Whether a branch of its chain has run. -/
  satisfied : Bool
  deriving DecidableEq, Repr

/-- Why passing over a block came to an end. -/
inductive BlockStop where
  /-- Behind the brace that closes the block. -/
  | brace
  /-- In front of an `else` of the same chain. -/
  | sibling
  deriving DecidableEq, Repr

/-- A place in a program. -/
structure Walk where
  program : Program
  /-- The index of the line to run next. -/
  next : Nat := 0
  /-- The open conditionals, the innermost first. -/
  ifs : List Frame := []

namespace Walk

/-- The index of the line that ran last. -/
def index? (w : Walk) : Option Nat :=
  if 0 < w.next ∧ w.next ≤ w.program.lines.size then some (w.next - 1) else none

/-- The line that ran last. -/
def line? (w : Walk) : Option Line :=
  w.index?.bind fun i => w.program.lines[i]?

/-- The statement that runs next. -/
def nextStatement? (w : Walk) : Option Statement :=
  w.program.statement? w.next

/-- Moves in front of a line, or behind the last one. -/
def moveTo (w : Walk) (idx : Nat) : Walk :=
  { w with next := min idx w.program.lines.size }

/-- Steps behind the next line, if there is one. -/
def advance? (w : Walk) : Option Walk :=
  if w.next < w.program.lines.size then some { w with next := w.next + 1 } else none

/-! ## Open conditionals -/

/-- Opens a conditional. -/
def push (w : Walk) (frame : Frame) : Walk :=
  { w with ifs := frame :: w.ifs }

/-- Closes the innermost conditional. -/
def pop (w : Walk) : Walk :=
  { w with ifs := w.ifs.tail }

/-- Puts a conditional in the place of the innermost one. -/
def replaceTop (w : Walk) (frame : Frame) : Walk :=
  { w with ifs := frame :: w.ifs.tail }

/-- The statement that opened a conditional. -/
def opener? (w : Walk) (frame : Frame) : Option Statement :=
  w.program.statement? frame.line

/-! ## Passing over a block -/

/-- Where passing over a block ended. -/
structure Skip where
  /-- Why it ended; `none` when there were no more lines. -/
  stop? : Option BlockStop
  /-- The index of the line to run next. -/
  next : Nat
  /-- The conditionals opened on the way and still open. -/
  opened : List Frame
  deriving DecidableEq, Repr

/-- Passes over lines, the first of which has the given index.  `chained` holds behind a complete
inner conditional, whose `else` is not that of the block being passed over. -/
def skipLines (opened : List Frame) (chained : Bool) (idx : Nat) : List Line → Skip
  | [] => ⟨none, idx, opened⟩
  | line :: rest =>
      match line.statement? with
      | none => skipLines opened false (idx + 1) rest
      | some s =>
          if s.startsChain then
            if s.isSingle then skipLines opened true (idx + 1) rest
            else skipLines (⟨idx, false⟩ :: opened) false (idx + 1) rest
          else if s.isElse then
            if line.closesBlock then
              match opened with
              | [] => ⟨some .sibling, idx, []⟩
              | _ :: outer =>
                  if s.opensBlock then skipLines (⟨idx, false⟩ :: outer) false (idx + 1) rest
                  else skipLines outer true (idx + 1) rest
            else if opened.isEmpty && !chained then ⟨some .sibling, idx, []⟩
            else if s.opensBlock then skipLines (⟨idx, false⟩ :: opened) false (idx + 1) rest
            else skipLines opened chained (idx + 1) rest
          else
            match s with
            | .rightBrace =>
                match opened with
                | [] => ⟨some .brace, idx + 1, []⟩
                | _ :: outer => skipLines outer true (idx + 1) rest
            | .leftBrace => skipLines opened chained (idx + 1) rest
            | _ => skipLines opened false (idx + 1) rest

/-- Passing over lines does not go back. -/
theorem le_next_skipLines (opened : List Frame) (chained : Bool) (idx : Nat) (lines : List Line) :
    idx ≤ (skipLines opened chained idx lines).next := by
  induction lines generalizing opened chained idx with
  | nil => exact Nat.le_refl idx
  | cons line rest ih =>
    have step (opened : List Frame) (chained : Bool) :
        idx ≤ (skipLines opened chained (idx + 1) rest).next :=
      Nat.le_of_succ_le (ih opened chained (idx + 1))
    simp only [skipLines]
    repeat' split
    all_goals first | exact step _ _ | exact Nat.le_refl idx | exact Nat.le_succ idx

/-- Passes over the body of the innermost open block. -/
def skipBlock (w : Walk) : Option BlockStop × Walk :=
  let skip := skipLines [] false w.next (w.program.lines.toList.drop w.next)
  (skip.stop?, { w with next := skip.next, ifs := skip.opened ++ w.ifs })

@[simp] theorem program_skipBlock (w : Walk) : w.skipBlock.2.program = w.program := rfl

/-- Passing over a block does not go back. -/
theorem le_next_skipBlock (w : Walk) : w.next ≤ w.skipBlock.2.next :=
  le_next_skipLines [] false w.next _

theorem lt_size_of_nextStatement? {w : Walk} {s : Statement} (h : w.nextStatement? = some s) :
    w.next < w.program.lines.size := by
  unfold nextStatement? Program.statement? at h
  rcases Nat.lt_or_ge w.next w.program.lines.size with hlt | hge
  · exact hlt
  · simp [Array.getElem?_eq_none hge] at h

/-- Passes over the `else` lines that follow a branch that was taken, with their blocks.  The
truth value tells whether every block passed over was closed. -/
def skipChain (w : Walk) : Bool × Walk :=
  match _h : w.nextStatement? with
  | none => (true, w)
  | some s =>
      if !s.isElse then (true, w)
      else if s.isSingle then skipChain { w with next := w.next + 1 }
      else
        let inner := push { w with next := w.next + 1 } ⟨w.next, true⟩
        match inner.skipBlock.1 with
        | none => (false, inner.skipBlock.2.pop)
        | some _ => skipChain inner.skipBlock.2.pop
termination_by w.program.lines.size - w.next
decreasing_by
  · exact Nat.sub_succ_lt_self _ _ (lt_size_of_nextStatement? _h)
  · have hlt := lt_size_of_nextStatement? _h
    have hle : w.next + 1 ≤ inner.skipBlock.2.next := le_next_skipBlock inner
    change w.program.lines.size - inner.skipBlock.2.next < w.program.lines.size - w.next
    omega

/-! ## Lines that follow a conditional on one line -/

/-- Whether a line is an `else` with its body on the same line, and does not close a block first. -/
def isLoneElse (line : Line) : Bool :=
  !line.closesBlock && (match line.statement? with
    | some s => s.isElse && s.isSingle
    | none => false)

/-- Whether a line is an `if_N` with its body on the same line. -/
def isLoneIfArgs (line : Line) : Bool :=
  match line.statement? with
  | some (.single (.ifArgs _) _) => true
  | _ => false

/-- Passes over the lines of a kind that come next. -/
def skipWhile (p : Line → Bool) (w : Walk) : Walk :=
  { w with next := w.next + ((w.program.lines.toList.drop w.next).takeWhile p).length }

/-- Passes over the one-line `else` lines behind a one-line `if` that was taken. -/
def skipElses (w : Walk) : Walk :=
  w.skipWhile isLoneElse

/-- Passes over the one-line `if_N` lines behind one that was taken. -/
def skipIfArgs (w : Walk) : Walk :=
  w.skipWhile isLoneIfArgs

end Walk

end StreamScript
