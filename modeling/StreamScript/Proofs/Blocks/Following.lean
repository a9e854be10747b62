import StreamScript.Proofs.Blocks.Moves

/-!
# Scripts follow their bodies

A running script has no tree.  It knows the line in front of it and the open
conditionals, and the latter need not be those that are open in the tree: a
conditional on one line stays open until the next line shows that its chain is
over, and one whose chain was passed over together with the chain around it stays
open for good.  This module shows that a script does what `Body.perform` says all
the same.

The invariant looks at the open conditionals from the innermost on.  At most one
is on one line.  Below it (`Program.unpend`), every one has a block and has been
satisfied, and there are at least as many as there are blocks around the place in
the tree (`Calm`).  Those that are too many do no harm, since one satisfied
conditional is as good as another.

Only behind a chain none of whose parts has run is there an exception: when an
`else` follows, the conditional stays open without being satisfied (`Dangles`).
What follows is then another part of the same chain, or the part of a chain around
it that closes the block.  `Body.perform` tells these two apart, and `Arrived` says
what is open behind a body in terms of what it tells.
-/

namespace StreamScript

open Layout

namespace Program

variable {p : Program} {i d d' : Nat} {top : Frame} {fs base : List Frame} {line : Line}
  {ls rest : List Line} {statement : Statement}

theorem From.isElseAt (h : p.From i (line :: ls)) (hs : line.statement? = some statement) :
    p.isElseAt i = statement.isElse := by
  rw [Program.isElseAt, h.statement?, hs]

theorem From.isElseAt_plain {l : PlainLine} (h : p.From i (l.line :: ls)) :
    p.isElseAt i = false := by
  rw [Program.isElseAt, h.statement?]
  cases hs : l.line.statement? with
  | none => rfl
  | some s => exact Statement.isElse_of_not_isLayout (l.plain s hs)

theorem From.isSingleAt {b : Bool} (h : p.From i (line :: ls))
    (hs : line.statement? = some statement) : p.isSingleAt ⟨i, b⟩ = statement.isSingle := by
  rw [Program.isSingleAt, h.statement?, hs]

/-! ## What is open in the middle of a body -/

/-- Every open conditional has a block and has been satisfied, and there are at least so many. -/
structure Base (p : Program) (d : Nat) (fs : List Frame) : Prop where
  satisfied : ∀ frame ∈ fs, frame.satisfied = true
  block : ∀ frame ∈ fs, p.isSingleAt frame = false
  depth : d ≤ fs.length

/-- The same, but for the innermost conditional when it is on one line. -/
def Calm (p : Program) (d : Nat) (fs : List Frame) : Prop :=
  p.Base d (p.unpend fs)

namespace Base

theorem nil (p : Program) : p.Base 0 [] :=
  ⟨fun _ h => (List.not_mem_nil h).elim, fun _ h => (List.not_mem_nil h).elim, Nat.le_refl 0⟩

theorem mono (h : p.Base d fs) (hd : d' ≤ d) : p.Base d' fs :=
  ⟨h.satisfied, h.block, Nat.le_trans hd h.depth⟩

theorem unpend_eq (h : p.Base d fs) : p.unpend fs = fs := by
  cases fs with
  | nil => rfl
  | cons top outer =>
    rw [Program.unpend, h.block top List.mem_cons_self]
    rfl

theorem calm (h : p.Base d fs) : p.Calm d fs := by
  rw [Calm, h.unpend_eq]
  exact h

theorem cons (h : p.Base d fs) (hblock : p.isSingleAt top = false) (hsat : top.satisfied = true) :
    p.Base (d + 1) (top :: fs) where
  satisfied := List.forall_mem_cons.mpr ⟨hsat, h.satisfied⟩
  block := List.forall_mem_cons.mpr ⟨hblock, h.block⟩
  depth := Nat.succ_le_succ h.depth

theorem exists_cons (h : p.Base (d + 1) fs) :
    ∃ top base, fs = top :: base ∧ top.satisfied = true ∧ p.Base d base := by
  cases fs with
  | nil => exact absurd h.depth (Nat.not_succ_le_zero d)
  | cons top base =>
    have hsat := List.forall_mem_cons.mp h.satisfied
    have hblock := List.forall_mem_cons.mp h.block
    exact ⟨top, base, rfl, hsat.1, hsat.2, hblock.2, Nat.le_of_succ_le_succ h.depth⟩

end Base

namespace Calm

theorem mono (h : p.Calm d fs) (hd : d' ≤ d) : p.Calm d' fs :=
  Base.mono h hd

/-- A conditional on one line does not count. -/
theorem of_single (h : p.Base d base) (hsingle : p.isSingleAt top = true) :
    p.Calm d (top :: base) := by
  rw [Calm, Program.unpend, hsingle]
  exact h

theorem unpend (h : p.Calm d fs) : p.Calm d (p.unpend fs) :=
  Base.calm h

end Calm

/-! ## What is open behind a body -/

/-- What is open behind a chain none of whose parts has run, if the last one is a block: the
conditional stays open when an `else` follows. -/
def Dangles (p : Program) (d i : Nat) (fs : List Frame) : Prop :=
  if p.isElseAt i then
    ∃ top base, fs = top :: base ∧ top.satisfied = false ∧ p.isSingleAt top = false ∧ p.Base d base
  else p.Base d fs

theorem Dangles.mono (h : p.Dangles d i fs) (hd : d' ≤ d) : p.Dangles d' i fs := by
  rw [Dangles] at h ⊢
  split
  · next helse =>
    rw [if_pos helse] at h
    obtain ⟨top, base, hfs, htop, hblock, hbase⟩ := h
    exact ⟨top, base, hfs, htop, hblock, hbase.mono hd⟩
  · next helse =>
    rw [if_neg helse] at h
    exact Base.mono h hd

/-- Passing over the rest of a chain leads from one line to another. -/
def Passes (p : Program) (i q : Nat) : Prop :=
  ∀ fs, Walk.skipChain ⟨p, i, fs⟩ = (true, ⟨p, q, fs⟩)

/-- Where a script is behind a body, and what is open there.  It may have passed over parts of the
chains around the body together with the last chain in it. -/
def Arrived (p : Program) (d : Nat) (isOpen : Bool) (i q : Nat) (fs : List Frame) : Prop :=
  if isOpen then q = i ∧ p.Dangles d i fs else (q = i ∨ p.Passes i q) ∧ p.Calm d fs

/-- What may follow a body. -/
structure Follows (p : Program) (i : Nat) : Prop where
  lone : ∀ l ls, p.From i (l :: ls) → Walk.isLoneElse l = false
  passes : ∃ q, p.Passes i q

theorem passes_of_not_else (h : p.isElseAt i = false) : p.Passes i i := by
  intro fs
  refine skipChain_of_not_else fun s hs => ?_
  rw [isElseAt, show p.statement? i = some s from hs] at h
  exact h

theorem Passes.eq {q q' : Nat} (h : p.Passes i q) (h' : p.Passes i q') : q = q' := by
  have heq := (h []).symm.trans (h' [])
  exact congrArg (fun r => r.2.next) heq

/-- Where no `else` follows, nothing is out of the ordinary. -/
theorem Arrived.calm {q : Nat} {isOpen : Bool} (h : p.Arrived d isOpen i q fs)
    (helse : p.isElseAt i = false) : q = i ∧ p.Calm d fs := by
  cases isOpen with
  | true =>
    obtain ⟨hq, hdangles⟩ := h
    rw [Dangles, helse] at hdangles
    exact ⟨hq, Base.calm hdangles⟩
  | false =>
    obtain ⟨hq, hcalm⟩ := h
    refine ⟨?_, hcalm⟩
    rcases hq with hq | hpasses
    · exact hq
    · exact hpasses.eq (passes_of_not_else helse)

theorem Follows.of_not_else (h : p.isElseAt i = false) : p.Follows i where
  lone := by
    intro l ls hfrom
    rw [Walk.isLoneElse]
    cases hs : l.statement? with
    | none => rw [Bool.and_false]
    | some s =>
      rw [hfrom.isElseAt hs] at h
      dsimp only
      rw [h, Bool.false_and, Bool.and_false]
  passes := ⟨i, passes_of_not_else h⟩

end Program

namespace Script

variable {env : Env} {p : Program} {lead : Lead} {d i q : Nat} {fs base : List Frame} {top : Frame}
  {o : Outcome} {rest : List Line}

/-! ## Chains in which a branch has run -/

/-- What is open in front of the parts that are left of a chain in which a branch has run. -/
def Sated (p : Program) (d : Nat) : Lead → Nat → List Frame → Prop
  | .joined, _, fs => p.Calm (d + 1) fs
  | _, i, fs => p.Calm d fs ∧
      (p.isElseAt i = true → ∃ top base, fs = top :: base ∧ top.satisfied = true ∧ p.Base d base)

theorem Sated.finds {line : Line} {ls : List Line} {statement : Statement}
    (h : Sated p d lead i fs) (hfirst : lead ≠ .first) (hfrom : p.From i (line :: ls))
    (hs : line.statement? = some statement) (hlead : lead.Introduces statement line) :
    ∃ top base, lead.finds p fs = top :: base ∧ top.satisfied = true ∧ p.Base d base := by
  cases lead with
  | first => exact absurd rfl hfirst
  | own => exact h.2 ((hfrom.isElseAt hs).trans hlead.1)
  | joined => exact Program.Base.exists_cons h

/-- Behind a block that was passed over in a chain in which a branch has run. -/
theorem sated_behind_block (h : p.Base d base) (hblock : p.isSingleAt ⟨i, true⟩ = false) (j : Nat) :
    Sated p d .own j (if p.isElseAt j then ⟨i, true⟩ :: base else base) := by
  cases helse : p.isElseAt j with
  | true =>
    refine ⟨?_, fun _ => ⟨_, _, rfl, rfl, h⟩⟩
    exact (h.cons hblock rfl).calm.mono (Nat.le_succ d)
  | false =>
    refine ⟨h.calm, fun hj => ?_⟩
    rw [helse] at hj
    cases hj

/-- **Once a branch has run, a script comes out behind the chain and carries out nothing more of
it.** -/
theorem goes_satisfied (env : Env) (o : Outcome) {lead : Lead} {i : Nat} {fs : List Frame}
    {rest : List Line} :
    (c : Chain lead) → lead ≠ .first → p.From i (c.lines ++ rest) → Sated p d lead i fs →
    ∃ fs', p.Calm d fs' ∧ Goes env p o i fs o (i + c.lines.length) fs'
  | .stop, _, _, h => ⟨fs, h.1, .refl⟩
  | .single l next, hfirst, hfrom, h => by
    obtain ⟨top, base, hfinds, htop, hbase⟩ :=
      h.finds hfirst hfrom l.reads (introduces_oneLine l)
    have hstep := goes_single_of_satisfied l env o hfrom hfirst hfinds htop
    have hsingle : p.isSingleAt ⟨i, true⟩ = true := Program.From.isSingleAt hfrom l.reads
    have hsated : Sated p d .own (i + 1) (⟨i, true⟩ :: base) :=
      ⟨.of_single hbase hsingle, fun _ => ⟨_, _, rfl, rfl, hbase⟩⟩
    obtain ⟨fs', hcalm, hgoes⟩ := goes_satisfied env o next (by decide) hfrom.tail hsated
    refine ⟨fs', hcalm, hstep.trans ?_⟩
    rw [Chain.length_lines_single, ← Nat.add_assoc]
    exact hgoes
  | .block op body close next, hfirst, hfrom, h => by
    rw [Chain.lines, List.append_assoc, List.append_assoc, List.cons_append] at hfrom
    obtain ⟨top, base, hfinds, htop, hbase⟩ :=
      h.finds hfirst hfrom op.reads (introduces_opening op)
    have hblock : p.isSingleAt ⟨i, true⟩ = false := Program.From.isSingleAt hfrom op.reads
    have hstep := goes_satisfied_close op env o body close hfrom hfirst hfinds htop rfl
    obtain ⟨fs', hcalm, hgoes⟩ := goes_satisfied env o next (by decide) hfrom.append.append.tail
      (sated_behind_block hbase hblock _)
    refine ⟨fs', hcalm, hstep.trans ?_⟩
    rw [Chain.length_lines_block, ← Nat.add_assoc, ← Nat.add_assoc, ← Nat.add_assoc]
    exact hgoes
  | .joined op body next, hfirst, hfrom, h => by
    rw [Chain.lines, List.append_assoc, List.append_assoc] at hfrom
    obtain ⟨top, base, hfinds, htop, hbase⟩ :=
      h.finds hfirst hfrom op.reads (introduces_opening op)
    have hblock : p.isSingleAt ⟨i, true⟩ = false := Program.From.isSingleAt hfrom op.reads
    have hstep := goes_satisfied_joined op env o body next hfrom hfirst hfinds htop
    obtain ⟨fs', hcalm, hgoes⟩ := goes_satisfied env o next (by decide) hfrom.append.append
      (hbase.cons hblock rfl).calm
    refine ⟨fs', hcalm, hstep.trans ?_⟩
    rw [Chain.length_lines_joined, ← Nat.add_assoc, ← Nat.add_assoc]
    exact hgoes

theorem skipElses_of_opening (op : Opening lead) {ls : List Line}
    (hfrom : p.From i (op.lines ++ ls)) : Walk.skipElses ⟨p, i, fs⟩ = ⟨p, i, fs⟩ := by
  refine skipElses_of_not_lone fun l ls' hl => ?_
  obtain ⟨rfl, -⟩ := List.cons.inj (hl.eq hfrom)
  simp [Walk.isLoneElse, op.reads, Statement.isSingle]

/-- Behind a part on one line whose body has run, a script passes over the parts on one line, and
the rest of the chain is as in `goes_satisfied`. -/
theorem goes_behind_single (env : Env) (o : Outcome) {i : Nat} {rest : List Line}
    (hbase : p.Base d base) (hsingle : p.isSingleAt top = true) (htop : top.satisfied = true) :
    (c : Chain .own) → p.From i (c.lines ++ rest) → p.Follows (i + c.lines.length) →
    ∃ fs', p.Calm d fs' ∧
      Goes env p o (Walk.skipElses ⟨p, i, top :: base⟩).next (top :: base) o
        (i + c.lines.length) fs'
  | .stop, _, hfollows => by
    have hstay : Walk.skipElses ⟨p, i, top :: base⟩ = ⟨p, i, top :: base⟩ :=
      skipElses_of_not_lone hfollows.lone
    rw [hstay]
    exact ⟨_, .of_single hbase hsingle, .refl⟩
  | .single l next, hfrom, hfollows => by
    rw [Chain.length_lines_single, ← Nat.add_assoc] at hfollows ⊢
    rw [skipElses_of_single hfrom]
    exact goes_behind_single env o hbase hsingle htop next hfrom.tail hfollows
  | .block op body close next, hfrom, _ => by
    have hlines := hfrom
    rw [Chain.lines, List.append_assoc] at hlines
    rw [skipElses_of_opening op hlines]
    exact goes_satisfied env o _ (by decide) hfrom
      ⟨.of_single hbase hsingle, fun _ => ⟨top, base, rfl, htop, hbase⟩⟩
  | .joined op body next, hfrom, _ => by
    have hlines := hfrom
    rw [Chain.lines, List.append_assoc] at hlines
    rw [skipElses_of_opening op hlines]
    exact goes_satisfied env o _ (by decide) hfrom
      ⟨.of_single hbase hsingle, fun _ => ⟨top, base, rfl, htop, hbase⟩⟩

/-! ## Chains in which no branch has run -/

/-- What is open in front of the parts that are left of a chain in which no branch has run. -/
def Ready (p : Program) (d : Nat) (isOpen : Bool) : Lead → Nat → List Frame → Prop
  | .first, _, fs => p.Calm d fs
  | .joined, i, fs => p.Dangles d i fs
  | .own, i, fs =>
      if isOpen then p.Dangles d i fs
      else ∃ top base, fs = top :: base ∧ top.satisfied = false ∧ p.isSingleAt top = true ∧
        p.Base d base

theorem Ready.entered {line : Line} {ls : List Line} {statement : Statement} {isOpen : Bool}
    (h : Ready p d isOpen lead i fs) (hfrom : p.From i (line :: ls))
    (hs : line.statement? = some statement) (hlead : lead.Introduces statement line) :
    ∃ base, p.Base d base ∧ Entered lead (lead.finds p fs) base := by
  have hdangles (helse : statement.isElse = true) (h : p.Dangles d i fs) :
      ∃ top base, fs = top :: base ∧ top.satisfied = false ∧ p.isSingleAt top = false ∧
        p.Base d base := by
    rwa [Program.Dangles, hfrom.isElseAt hs, helse] at h
  cases lead with
  | first => exact ⟨p.unpend fs, h, rfl⟩
  | own =>
    cases isOpen with
    | true =>
      obtain ⟨top, base, rfl, htop, -, hbase⟩ := hdangles hlead.1 h
      exact ⟨base, hbase, top, rfl, htop⟩
    | false =>
      obtain ⟨top, base, rfl, htop, -, hbase⟩ := h
      exact ⟨base, hbase, top, rfl, htop⟩
  | joined =>
    obtain ⟨top, base, rfl, htop, hblock, hbase⟩ := hdangles hlead.1 h
    refine ⟨base, hbase, top, ?_, htop⟩
    change p.unpend (top :: base) = top :: base
    rw [Program.unpend, hblock]
    rfl

/-- Behind a block that was passed over in a chain in which no branch has run. -/
theorem dangles_behind_block (h : p.Base d base) (hblock : p.isSingleAt ⟨i, false⟩ = false)
    (j : Nat) : p.Dangles d j (if p.isElseAt j then ⟨i, false⟩ :: base else base) := by
  rw [Program.Dangles]
  cases p.isElseAt j with
  | true => exact ⟨_, _, rfl, rfl, hblock, h⟩
  | false => exact h

/-- Behind the last part of a chain none of whose parts has run. -/
theorem Ready.arrived {isOpen : Bool} (h : Ready p d isOpen .own i fs) :
    p.Arrived d isOpen i i fs := by
  cases isOpen with
  | true => exact ⟨rfl, h⟩
  | false =>
    obtain ⟨top, base, rfl, -, hsingle, hbase⟩ := h
    exact ⟨.inl rfl, .of_single hbase hsingle⟩

theorem isElseAt_first (c : Chain .first) (hfrom : p.From i (c.lines ++ rest)) :
    p.isElseAt i = false := by
  obtain ⟨hlead, -⟩ | ⟨line, s, ls, hlines, hs, helse⟩ := c.lines_cases
  · cases hlead
  · rw [hlines] at hfrom
    exact (Program.From.isElseAt hfrom hs).trans helse

theorem isElseAt_joined (next : Chain .joined) (hfrom : p.From i (next.lines ++ rest)) :
    p.isElseAt i = true := by
  obtain ⟨hlead, -⟩ | ⟨line, s, ls, hlines, hs, helse, -⟩ := next.lines_cases
  · cases hlead
  · rw [hlines] at hfrom
    exact (Program.From.isElseAt hfrom hs).trans helse

/-- What follows a body may also stand in front of it, since it does not start with an `else`. -/
theorem follows_body (b : Body) (hfrom : p.From i (b.lines ++ rest))
    (h : p.Follows (i + b.lines.length)) : p.Follows i := by
  cases b with
  | nil => exact h
  | plain l b => exact .of_not_else (Program.From.isElseAt_plain hfrom)
  | chain c b =>
    rw [Body.lines, List.append_assoc] at hfrom
    exact .of_not_else (isElseAt_first c hfrom)

/-- A part that closes the block of the one before may follow a body. -/
theorem follows_joined (next : Chain .joined) (hfrom : p.From i (next.lines ++ rest))
    (h : p.Follows (i + next.lines.length)) : p.Follows i where
  lone := by
    intro l ls hl
    obtain ⟨hlead, -⟩ | ⟨line, s, ls', hlines, hs, -, hcloses⟩ := next.lines_cases
    · cases hlead
    · rw [hlines] at hfrom
      obtain ⟨rfl, -⟩ := List.cons.inj (hl.eq hfrom)
      rw [Walk.isLoneElse, hcloses]
      rfl
  passes := by
    obtain ⟨q, hq⟩ := h.passes
    exact ⟨q, fun fs => (next.skipChain_eq (by decide) hfrom).trans (hq fs)⟩

/-- Behind the brace of a branch that has run, the rest of the chain is passed over. -/
theorem goes_branch_close (env : Env) {o : Outcome} {i : Nat} (close : Closing) (next : Chain .own)
    (hfrom : p.From i (close.line :: (next.lines ++ rest))) (hcalm : p.Calm (d + 1) fs)
    (hfollows : p.Follows (i + 1 + next.lines.length)) :
    ∃ q base, p.Arrived d false (i + 1 + next.lines.length) q base ∧
      Goes env p o i fs o.closed q base := by
  obtain ⟨top, base, hfs, htop, hbase⟩ := Program.Base.exists_cons hcalm
  obtain ⟨q, hq⟩ := hfollows.passes
  have hskip : Walk.skipChain ⟨p, i + 1, base⟩ = (true, ⟨p, q, base⟩) :=
    (next.skipChain_eq (by decide) hfrom.tail).trans (hq base)
  have hlt : i + 1 ≤ q := by
    have hle := (Walk.next_le_of_skipChain ⟨p, i + 1, base⟩).2
    rwa [hskip] at hle
  exact ⟨q, base, ⟨.inr hq, hbase.calm⟩, goes_close close hfrom hfs htop hlt hskip⟩

/-- Behind a branch that has run, and that the next part closes, the rest of the chain is passed
over.  The script may have done so already, together with the last chain of the branch. -/
theorem goes_branch_joined (env : Env) (o : Outcome) {i : Nat} (next : Chain .joined)
    (hfrom : p.From i (next.lines ++ rest)) (h : p.Arrived (d + 1) false i q fs) :
    ∃ q' fs', p.Arrived d false (i + next.lines.length) q' fs' ∧ Goes env p o q fs o q' fs' := by
  obtain ⟨rfl | hpasses, hcalm⟩ := h
  · obtain ⟨fs', hcalm', hgoes⟩ := goes_satisfied env o next (by decide) hfrom hcalm
    exact ⟨_, fs', ⟨.inl rfl, hcalm'⟩, hgoes⟩
  · refine ⟨q, fs, ⟨.inr fun fs => ?_, hcalm.mono (Nat.le_succ d)⟩, .refl⟩
    exact (next.skipChain_eq (by decide) hfrom).symm.trans (hpasses fs)

/-! ## Bodies -/

mutual

/-- **A script that arrives in front of a body carries out what `Body.perform` says and arrives
behind it.** -/
theorem goes_body (env : Env) {d i q : Nat} {fs : List Frame} {rest : List Line} :
    (b : Body) → b.isDirect = true → (o : Outcome) → p.From i (b.lines ++ rest) →
    p.Follows (i + b.lines.length) → p.Arrived d o.isOpen i q fs →
    ∃ q' fs', p.Arrived d (b.perform env o).isOpen (i + b.lines.length) q' fs' ∧
      Goes env p o q fs (b.perform env o) q' fs'
  | .nil, _, o, _, _, h => ⟨q, fs, h, .refl⟩
  | .plain l b, hdirect, o, hfrom, hfollows, h => by
    rw [Body.isDirect, Bool.and_eq_true] at hdirect
    obtain ⟨rfl, hcalm⟩ := h.calm (Program.From.isElseAt_plain hfrom)
    obtain ⟨fs', hfs', hstep⟩ := goes_plain env o fs l hfrom hdirect.1
    have hcalm' : p.Calm d fs' := by
      rcases hfs' with rfl | rfl
      · exact hcalm
      · exact hcalm.unpend
    have hlen : q + (Body.plain l b).lines.length = q + 1 + b.lines.length := by
      rw [Body.lines, List.length_cons]
      omega
    rw [hlen] at hfollows ⊢
    obtain ⟨q', fs'', harrived, hgoes⟩ := goes_body env b hdirect.2
      (o.carry env l.line.statement? (l.perform env o.view)) hfrom.tail hfollows ⟨.inl rfl, hcalm'⟩
    exact ⟨q', fs'', harrived, hstep.trans hgoes⟩
  | .chain c b, hdirect, o, hfrom, hfollows, h => by
    rw [Body.isDirect, Bool.and_eq_true] at hdirect
    rw [Body.lines, List.append_assoc] at hfrom
    rw [Body.lines, List.length_append, ← Nat.add_assoc] at hfollows ⊢
    obtain ⟨rfl, hcalm⟩ := h.calm (isElseAt_first c hfrom)
    obtain ⟨q', fs', harrived, hgoes⟩ := goes_chain env c hdirect.1 o hfrom
      (follows_body b hfrom.append hfollows) hcalm
    obtain ⟨q'', fs'', harrived', hgoes'⟩ :=
      goes_body env b hdirect.2 _ hfrom.append hfollows harrived
    exact ⟨q'', fs'', harrived', hgoes.trans hgoes'⟩

/-- The same for the parts that are left of a chain in which no branch has run. -/
theorem goes_chain (env : Env) {lead : Lead} {d i : Nat} {fs : List Frame} {rest : List Line} :
    (c : Chain lead) → c.isDirect = true → (o : Outcome) → p.From i (c.lines ++ rest) →
    p.Follows (i + c.lines.length) → Ready p d o.isOpen lead i fs →
    ∃ q' fs', p.Arrived d (c.perform env o).isOpen (i + c.lines.length) q' fs' ∧
      Goes env p o i fs (c.perform env o) q' fs'
  | .stop, _, o, _, _, h => ⟨i, fs, h.arrived, .refl⟩
  | .single l next, hdirect, o, hfrom, hfollows, h => by
    rw [Chain.isDirect, Bool.and_eq_true, Bool.and_eq_true, Bool.not_eq_true'] at hdirect
    obtain ⟨⟨hbody, hhead⟩, hnext⟩ := hdirect
    rw [Chain.length_lines_single, ← Nat.add_assoc] at hfollows ⊢
    obtain ⟨base, hbase, hentered⟩ := h.entered hfrom l.reads (introduces_oneLine l)
    rw [Chain.perform]
    rcases htest : l.head.test env o.view with ⟨_ | _, v⟩
    · have hstep := goes_single_of_false l hfrom hentered htest
      obtain ⟨q', fs', harrived, hgoes⟩ := goes_chain env next hnext
        (o.carry env l.line.statement? v) hfrom.tail hfollows
        ⟨⟨i, false⟩, base, rfl, rfl, Program.From.isSingleAt hfrom l.reads, hbase⟩
      exact ⟨q', fs', harrived, hstep.trans hgoes⟩
    · have hstep := goes_single l hbody hhead hfrom hentered htest
      obtain ⟨fs', hcalm, hgoes⟩ := goes_behind_single env
        (o.carry env l.line.statement? (l.body.perform env v)) hbase
        (Program.From.isSingleAt hfrom l.reads) (Eq.refl true) next hfrom.tail hfollows
      exact ⟨_, fs', ⟨.inl rfl, hcalm⟩, hstep.trans hgoes⟩
  | .block op body close next, hdirect, o, hfrom, hfollows, h => by
    rw [Chain.isDirect, Bool.and_eq_true] at hdirect
    rw [Chain.length_lines_block, ← Nat.add_assoc, ← Nat.add_assoc, ← Nat.add_assoc] at hfollows ⊢
    rw [Chain.lines, List.append_assoc, List.append_assoc, List.cons_append] at hfrom
    obtain ⟨base, hbase, hentered⟩ := h.entered hfrom op.reads (introduces_opening op)
    rw [Chain.perform]
    rcases htest : op.head.test env o.view with ⟨_ | _, v⟩
    · have hstep := goes_opening_close op body close hfrom hentered htest rfl
      obtain ⟨q', fs', harrived, hgoes⟩ := goes_chain env next hdirect.2
        (o.carry env op.line.statement? v).opened hfrom.append.append.tail hfollows
        (dangles_behind_block hbase (Program.From.isSingleAt hfrom op.reads) _)
      exact ⟨q', fs', harrived, hstep.trans hgoes⟩
    · have hstep := goes_opening op hfrom hentered htest
      have hbase' := hbase.cons (Program.From.isSingleAt hfrom op.reads) (Eq.refl true)
      have hclose : p.isElseAt (i + op.lines.length + body.lines.length) = false :=
        hfrom.append.append.isElseAt close.reads
      obtain ⟨q', fs', harrived, hgoes⟩ := goes_body env body hdirect.1
        (o.carry env op.line.statement? v) hfrom.append (.of_not_else hclose)
        ⟨.inl rfl, hbase'.calm⟩
      obtain ⟨rfl, hcalm⟩ := harrived.calm hclose
      obtain ⟨q', fs'', harrived', hgoes'⟩ := goes_branch_close env close next
        hfrom.append.append hcalm hfollows
      exact ⟨q', fs'', harrived', hstep.trans (hgoes.trans hgoes')⟩
  | .joined op body next, hdirect, o, hfrom, hfollows, h => by
    rw [Chain.isDirect, Bool.and_eq_true] at hdirect
    rw [Chain.length_lines_joined, ← Nat.add_assoc, ← Nat.add_assoc] at hfollows ⊢
    rw [Chain.lines, List.append_assoc, List.append_assoc] at hfrom
    obtain ⟨base, hbase, hentered⟩ := h.entered hfrom op.reads (introduces_opening op)
    rw [Chain.perform]
    rcases htest : op.head.test env o.view with ⟨_ | _, v⟩
    · have hstep := goes_opening_joined op body next hfrom hentered htest
      have hdangles : p.Dangles d (i + op.lines.length + body.lines.length)
          (⟨i, false⟩ :: base) := by
        rw [Program.Dangles, isElseAt_joined next hfrom.append.append]
        exact ⟨_, _, rfl, rfl, Program.From.isSingleAt hfrom op.reads, hbase⟩
      obtain ⟨q', fs', harrived, hgoes⟩ := goes_chain env next hdirect.2
        (o.carry env op.line.statement? v).opened hfrom.append.append hfollows hdangles
      exact ⟨q', fs', harrived, hstep.trans hgoes⟩
    · have hstep := goes_opening op hfrom hentered htest
      have hbase' := hbase.cons (Program.From.isSingleAt hfrom op.reads) (Eq.refl true)
      obtain ⟨q', fs', harrived, hgoes⟩ := goes_body env body hdirect.1
        (o.carry env op.line.statement? v) hfrom.append
        (follows_joined next hfrom.append.append hfollows) ⟨.inl rfl, hbase'.calm⟩
      dsimp only
      -- behind an open branch the next part is taken for one of the chain inside it
      split
      · next hopen =>
        rw [hopen] at harrived
        obtain ⟨rfl, hdangles⟩ := harrived
        obtain ⟨q', fs'', harrived', hgoes'⟩ := goes_chain env next hdirect.2
          (body.perform env (o.carry env op.line.statement? v)) hfrom.append.append hfollows
          (hdangles.mono (Nat.le_succ d))
        exact ⟨q', fs'', harrived', hstep.trans (hgoes.trans hgoes')⟩
      · next hopen =>
        rw [Bool.not_eq_true] at hopen
        rw [hopen] at harrived ⊢
        obtain ⟨q'', fs'', harrived', hgoes'⟩ := goes_branch_joined env
          (body.perform env (o.carry env op.line.statement? v)) next hfrom.append.append harrived
        exact ⟨q'', fs'', harrived', hstep.trans (hgoes.trans hgoes')⟩

end

end Script

end StreamScript
