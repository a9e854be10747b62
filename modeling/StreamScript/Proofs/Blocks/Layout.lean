import StreamScript.Program.Basic

/-!
# Programs whose blocks close

A program is a list of lines, and nothing in it says which brace closes which
block.  `Body` is the tree behind a list of lines that is laid out properly:
plain lines, and chains of conditionals.  Each part of a chain has its body on
the same line, or in a block whose brace ends the line or stands alone on the
next one.  A block is closed by a brace on a line of its own, or by the line of
the next part, which then starts with the brace.

How a part may be introduced depends on what stands in front of it, so a chain is
indexed by its `Lead`: the first part starts the chain, any other stands on a line
of its own or is joined to the brace of the part before.  The lines carry the
proofs that they read as what they stand for, so that every tree is a properly
laid out program and `Body.lines` says which.
-/

namespace StreamScript

namespace Head

/-- Whether a head starts a chain of conditionals. -/
def startsChain : Head → Bool
  | .ifHolds _ | .ifArgs _ => true
  | .elseIf _ | .otherwise => false

/-- Whether a head counts the arguments. -/
def countsArgs : Head → Bool
  | .ifArgs _ => true
  | _ => false

end Head

namespace Statement

variable (head : Head) (brace : BracePlace) (body : Statement)

@[simp] theorem startsChain_block : (block head brace).startsChain = head.startsChain := by
  cases head <;> rfl

@[simp] theorem startsChain_single : (single head body).startsChain = head.startsChain := by
  cases head <;> rfl

@[simp] theorem isElse_block : (block head brace).isElse = !head.startsChain := by
  cases head <;> rfl

@[simp] theorem isElse_single : (single head body).isElse = !head.startsChain := by
  cases head <;> rfl

theorem startsChain_eq_false {s : Statement} (h : s.isElse = true) : s.startsChain = false := by
  cases s with
  | block head brace =>
    rw [isElse_block, Bool.not_eq_true'] at h
    rw [startsChain_block, h]
  | single head body =>
    rw [isElse_single, Bool.not_eq_true'] at h
    rw [startsChain_single, h]
  | _ => rfl

/-- Whether a statement takes part in the layout of blocks. -/
def isLayout : Statement → Bool
  | .block .. | .single .. | .leftBrace | .rightBrace => true
  | _ => false

theorem isElse_of_not_isLayout {s : Statement} (h : s.isLayout = false) : s.isElse = false := by
  cases s with
  | block | single => cases h
  | _ => rfl

/-- Whether a statement is carried out at once, and always in the same way, before the next line
runs. -/
def isDirect : Statement → Bool
  | .label _ | .comment _ | .shift | .debug _ | .echo _ | .put _ | .send _ | .printBox _
  | .save _ | .setVar .. | .unsetVar _ | .math .. | .eval .. | .evalMath ..
  | .matchText .. | .matchRegex .. | .action .. | .toggleAction .. => true
  | _ => false

end Statement

/-- What a line says depends on its text alone. -/
theorem Line.statement?_of_text {l l' : Line} (h : l'.text = l.text) :
    l'.statement? = l.statement? := by
  rw [l'.statement?_eq, l.statement?_eq, h]

namespace Layout

/-! ## Lines -/

/-- What stands in front of a part of a chain. -/
inductive Lead where
  /-- Nothing: it is the first part. -/
  | first
  /-- Another part, closed on the line before. -/
  | own
  /-- A block that the line of the part itself closes. -/
  | joined
  deriving DecidableEq, Repr

/-- Whether a line with the given head can have this in front of it. -/
def Lead.Fits : Lead → Head → Line → Prop
  | .first, head, _ => head.startsChain = true
  | .own, head, line => head.startsChain = false ∧ line.closesBlock = false
  | .joined, head, line => head.startsChain = false ∧ line.closesBlock = true

theorem Lead.Fits.startsChain_eq_false {lead : Lead} {head : Head} {line : Line}
    (h : lead.Fits head line) (hlead : lead ≠ .first) : head.startsChain = false := by
  cases lead with
  | first => exact absurd rfl hlead
  | own | joined => exact h.1

/-- A line that opens and closes nothing. -/
structure PlainLine where
  line : Line
  plain : ∀ s, line.statement? = some s → s.isLayout = false

/-- A conditional with its body on the same line. -/
structure OneLine (lead : Lead) where
  line : Line
  head : Head
  body : Statement
  reads : line.statement? = some (.single head body)
  fits : lead.Fits head line

/-- Where the brace of a block stands, given the line below that holds nothing else. -/
def placeOf : Option Line → BracePlace
  | none => .here
  | some _ => .nextLine

/-- A conditional whose body is a block, with the brace of the block. -/
structure Opening (lead : Lead) where
  line : Line
  head : Head
  /-- The line below, if the brace stands there. -/
  below? : Option Line
  reads : line.statement? = some (.block head (placeOf below?))
  below_reads : ∀ l, below? = some l → l.statement? = some .leftBrace
  fits : lead.Fits head line

/-- The lines of an opening. -/
def Opening.lines {lead : Lead} (o : Opening lead) : List Line :=
  o.line :: o.below?.toList

/-- A line with the brace that closes a block. -/
structure Closing where
  line : Line
  reads : line.statement? = some .rightBrace

/-! ## Bodies and chains -/

mutual

/-- Lines in which every block closes. -/
inductive Body where
  | nil
  | plain (l : PlainLine) (rest : Body)
  | chain (c : Chain .first) (rest : Body)

/-- The parts of a chain that are left, given what stands in front of them. -/
inductive Chain : Lead → Type where
  /-- There are none. -/
  | stop : Chain .own
  /-- A part on one line. -/
  | single {lead : Lead} (l : OneLine lead) (next : Chain .own) : Chain lead
  /-- A part whose block is closed on a line of its own. -/
  | block {lead : Lead} (o : Opening lead) (body : Body) (close : Closing) (next : Chain .own) :
      Chain lead
  /-- A part whose block is closed by the next part. -/
  | joined {lead : Lead} (o : Opening lead) (body : Body) (next : Chain .joined) : Chain lead

end

mutual

/-- The lines of a body. -/
def Body.lines : Body → List Line
  | .nil => []
  | .plain l rest => l.line :: rest.lines
  | .chain c rest => c.lines ++ rest.lines

/-- The lines of a chain. -/
def Chain.lines {lead : Lead} : Chain lead → List Line
  | .stop => []
  | .single l next => l.line :: next.lines
  | .block o body close next => o.lines ++ (body.lines ++ close.line :: next.lines)
  | .joined o body next => o.lines ++ (body.lines ++ next.lines)

end

section

variable {lead : Lead} (l : OneLine lead) (o : Opening lead) (body : Body) (close : Closing)

theorem Opening.length_lines : o.lines.length = o.below?.toList.length + 1 :=
  rfl

theorem Chain.length_lines_single (next : Chain .own) :
    (Chain.single l next).lines.length = 1 + next.lines.length := by
  rw [Chain.lines, List.length_cons, Nat.add_comm]

theorem Chain.length_lines_block (next : Chain .own) :
    (Chain.block o body close next).lines.length =
      o.lines.length + body.lines.length + 1 + next.lines.length := by
  simp only [Chain.lines, List.length_append, List.length_cons]
  omega

theorem Chain.length_lines_joined (next : Chain .joined) :
    (Chain.joined o body next).lines.length =
      o.lines.length + body.lines.length + next.lines.length := by
  simp only [Chain.lines, List.length_append]
  omega

end

/-! ## Kinds of bodies -/

mutual

/-- Whether everything between the conditionals is carried out at once.  Conditionals on one line
may not count arguments: those keep the ones that follow from running. -/
def Body.isDirect : Body → Bool
  | .nil => true
  | .plain l rest => l.line.statement?.all Statement.isDirect && rest.isDirect
  | .chain c rest => c.isDirect && rest.isDirect

/-- The same for a chain. -/
def Chain.isDirect {lead : Lead} : Chain lead → Bool
  | .stop => true
  | .single l next => l.body.isDirect && !l.head.countsArgs && next.isDirect
  | .block _ body _ next => body.isDirect && next.isDirect
  | .joined _ body next => body.isDirect && next.isDirect

end

mutual

/-- Whether every part of a chain but the first starts a line of its own. -/
def Body.isParted : Body → Bool
  | .nil => true
  | .plain _ rest => rest.isParted
  | .chain c rest => c.isParted && rest.isParted

/-- The same for a chain. -/
def Chain.isParted {lead : Lead} : Chain lead → Bool
  | .stop => true
  | .single _ next => next.isParted
  | .block _ body _ next => body.isParted && next.isParted
  | .joined .. => false

end

end Layout

end StreamScript
