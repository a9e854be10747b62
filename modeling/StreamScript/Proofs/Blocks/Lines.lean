import StreamScript.Proofs.Blocks.Meaning
import StreamScript.Proofs.Blocks.Passing
import StreamScript.Proofs.Runs

/-!
# What a line of a body does

`At` says where a running script is: in front of which line, with which
conditionals open, and with what to show.  For every kind of line that a body can
have there is a lemma that says where the line takes the script, in terms of what
`Statement.perform` and `Head.test` do to its view.

A conditional on one line stays open behind its line, since only the next line
shows whether its chain goes on.  `seen` gives the open conditionals as the next
line finds them.
-/

namespace StreamScript

namespace Program

/-- Whether an open conditional has its body on the same line. -/
def isSingleAt (p : Program) (frame : Frame) : Bool :=
  match p.statement? frame.line with
  | some statement => statement.isSingle
  | none => false

/-- Whether the line with an index continues a chain. -/
def isElseAt (p : Program) (idx : Nat) : Bool :=
  match p.statement? idx with
  | some statement => statement.isElse
  | none => false

/-- The open conditionals without the innermost one, if that is on one line. -/
def unpend (p : Program) : List Frame → List Frame
  | [] => []
  | top :: outer => if p.isSingleAt top then outer else top :: outer

end Program

namespace Script

variable {env : Env} {p : Program} {i q q' : Nat} {fs fs' base : List Frame} {v : View}
  {s t : Script} {line : Line} {statement : Statement}

/-! ## Where a script is -/

/-- A running script at a place, with what it has to show. -/
structure At (p : Program) (q : Nat) (fs : List Frame) (v : View) (s : Script) : Prop where
  walk : s.walk = ⟨p, q, fs⟩
  phase : s.phase = .running
  view : s.view = v

/-- The open conditionals when a line is carried out: one on one line is closed, unless the line
continues its chain. -/
def seen (p : Program) (line : Line) (statement : Statement) (fs : List Frame) : List Frame :=
  if !statement.isElse || line.closesBlock then p.unpend fs else fs

/-- The statement that the line in front of a script has carried out.  A brace carries out none,
and neither does a part of a chain in which a branch has run. -/
def carried (s : Script) : List (Option Statement) :=
  match s.nextLine? with
  | none => []
  | some line =>
      match line.statement? with
      | none => [none]
      | some .rightBrace => []
      | some statement =>
          if statement.isElse && (s.atStatement line statement).walk.ifs.head?.any Frame.satisfied
          then [] else [some statement]

/-- What a script has to show in front of a line that never ends. -/
def stuck? (env : Env) (s : Script) : Option View :=
  if s.lineEnds env then none else some s.view

theorem At.nextLine? (h : At p i fs v s) : s.nextLine? = p.lines[i]? := by
  rw [Script.nextLine?, if_pos h.phase, h.walk]

theorem At.withWalk (h : At p q fs v s) (q' : Nat) (fs' : List Frame) :
    At p q' fs' v { s with walk := ⟨p, q', fs'⟩ } :=
  ⟨rfl, h.phase, h.view⟩

theorem At.sameCourse (h : At p q fs v s) (hc : SameCourse s t) (hv : t.view = s.view) :
    At p q fs v t :=
  ⟨hc.walk.trans h.walk, hc.phase.trans h.phase, hv.trans h.view⟩

theorem At.behindLine (h : At p i fs v s) : At p (i + 1) fs v s.behindLine :=
  ⟨by rw [Script.behindLine, h.walk], h.phase, h.view⟩

theorem At.closeSingle (h : At p q fs v s) (line : Line) (statement : Statement) :
    At p q (seen p line statement fs) v (s.closeSingle line statement) := by
  have hifs : s.walk.ifs = fs := by rw [h.walk]
  have hopener (top : Frame) : s.walk.opener? top = p.statement? top.line := by
    rw [Walk.opener?, h.walk]
  unfold Script.closeSingle seen
  rw [hifs]
  cases fs with
  | nil => rw [Program.unpend, ite_self]; exact h
  | cons top outer =>
    dsimp only
    rw [hopener]
    change At p q _ v (if (p.isSingleAt top && _) = true then _ else s)
    rw [Program.unpend]
    cases (!statement.isElse || line.closesBlock) with
    | false => rw [Bool.and_false]; exact h
    | true =>
      cases p.isSingleAt top with
      | false => exact h
      | true => exact ⟨by rw [h.walk]; rfl, h.phase, h.view⟩

theorem At.atStatement (h : At p i fs v s) (line : Line) (statement : Statement) :
    At p (i + 1) (seen p line statement fs) v (s.atStatement line statement) := by
  have hremember : At p (i + 1) fs v (s.behindLine.remember line) :=
    h.behindLine.sameCourse ((SameCourse.refl _).remember line) rfl
  exact hremember.closeSingle line statement

theorem At.openFrame (h : At p q fs v s) (frame : Frame) :
    At p q (frame :: fs) v (s.openFrame frame) :=
  ⟨by rw [Script.openFrame, h.walk]; rfl, h.phase, h.view⟩

theorem At.replaceFrame {top : Frame} (h : At p q (top :: fs) v s) (frame : Frame) :
    At p q (frame :: fs) v (s.replaceFrame frame) :=
  ⟨by rw [Script.replaceFrame, h.walk]; rfl, h.phase, h.view⟩

theorem At.decideHead (h : At p q fs v s) (env : Env) (head : Head) :
    (s.decideHead env head).1 = (head.test env v).1 ∧
      At p q fs (head.test env v).2 (s.decideHead env head).2 := by
  obtain ⟨htest, hview⟩ := s.view_decideHead env head
  rw [h.view] at htest hview
  have hc := (SameCourse.refl s).decideHead env head
  exact ⟨htest, hc.walk.trans h.walk, hc.phase.trans h.phase, hview⟩

/-! ## One line -/

theorem At.step_eq (h : At p i fs v s) (hline : p.lines[i]? = some line)
    (hs : line.statement? = some statement) :
    step env s = proceed (execute env statement (s.atStatement line statement)) := by
  have hnext : s.nextLine? = some line := h.nextLine?.trans hline
  rw [step_of_nextLine? env hnext, runLine_of_statement env hnext hs]

theorem At.index?_atStatement (h : At p i fs v s) (hline : p.lines[i]? = some line)
    (statement : Statement) : (s.atStatement line statement).walk.index? = some i := by
  have hlt : i < p.lines.size := (Array.getElem?_eq_some_iff.mp hline).1
  rw [(h.atStatement line statement).walk]
  exact if_pos ⟨Nat.succ_pos i, hlt⟩

theorem At.scopes (h : At p q fs v s) : s.scopes = v.scopes :=
  congrArg View.scopes h.view

theorem At.lineEnds_eq (env : Env) (h : At p i fs v s) (hline : p.lines[i]? = some line)
    (hs : line.statement? = some statement) :
    s.lineEnds env = ends env statement (s.atStatement line statement) :=
  lineEnds_of_statement env (h.nextLine?.trans hline) hs

theorem At.carried_of_none (h : At p i fs v s) (hline : p.lines[i]? = some line)
    (hs : line.statement? = none) : s.carried = [none] := by
  rw [carried, h.nextLine?, hline]
  dsimp only
  rw [hs]

theorem At.carried_of_rightBrace (h : At p i fs v s) (hline : p.lines[i]? = some line)
    (hs : line.statement? = some .rightBrace) : s.carried = [] := by
  rw [carried, h.nextLine?, hline]
  dsimp only
  rw [hs]

theorem At.carried_eq (h : At p i fs v s) (hline : p.lines[i]? = some line)
    (hs : line.statement? = some statement) (hbrace : statement ≠ .rightBrace) :
    s.carried = if statement.isElse && (seen p line statement fs).head?.any Frame.satisfied
      then [] else [some statement] := by
  rw [carried, h.nextLine?, hline]
  dsimp only
  rw [hs]
  split
  · next h => cases h
  · next h => cases h; exact absurd rfl hbrace
  · next h => obtain rfl := Option.some.inj h; rw [(At.atStatement ‹_› line _).walk]

/-- A line that is not understood is reported and passed over. -/
theorem At.step_of_none (h : At p i fs v s) (hline : p.lines[i]? = some line)
    (hs : line.statement? = none) : ∃ t, step env s = .again t ∧ At p (i + 1) fs v t := by
  have hnext : s.nextLine? = some line := h.nextLine?.trans hline
  have hc := ((SameCourse.refl s.behindLine).remember line).report
    ("unknown command '" ++ line.text ++ "'")
  refine ⟨_, ?_, h.behindLine.sameCourse hc (view_report _ _)⟩
  rw [step_of_nextLine? env hnext, runLine_of_no_statement env hnext hs, proceed]

theorem At.step_of_isDirect (h : At p i fs v s) (hline : p.lines[i]? = some line)
    (hs : line.statement? = some statement) (hdirect : statement.isDirect = true)
    (helse : statement.isElse = false) :
    ∃ t, step env s = .again t ∧ At p (i + 1) (p.unpend fs) (statement.perform env v) t := by
  have hat := h.atStatement line statement
  rw [seen, helse] at hat
  obtain ⟨hflow, hview⟩ := (s.atStatement line statement).view_execute env hdirect
  have hc := execute_sameCourse env (Statement.steers_of_isDirect hdirect)
    (s.atStatement line statement)
  refine ⟨(execute env statement (s.atStatement line statement)).2, ?_, ?_⟩
  · rw [h.step_eq hline hs]
    generalize execute env statement (s.atStatement line statement) = r at hflow
    obtain ⟨flow, t⟩ := r
    obtain rfl : flow = .next := hflow
    rfl
  · exact ⟨hc.walk.trans hat.walk, hc.phase.trans hat.phase, by rw [hview, hat.view]⟩

/-! ## Conditionals -/

open Layout

variable {lead : Lead} {rest : List Line}

/-- The open conditionals when a part is carried out, and those around its chain.  Behind the first
part, the conditional of the chain is on top and has not been satisfied. -/
def Entered (lead : Lead) (fs base : List Frame) : Prop :=
  match lead with
  | .first => fs = base
  | _ => ∃ top, fs = top :: base ∧ top.satisfied = false

theorem At.enterBlock (o : Opening lead) (h : At p (i + 1) fs v s)
    (hfrom : p.From (i + 1) (o.below?.toList ++ rest)) :
    ∃ t, s.enterBlock (placeOf o.below?) = (true, t) ∧ At p (i + o.lines.length) fs v t := by
  rw [o.length_lines]
  cases hbelow : o.below? with
  | none => exact ⟨s, rfl, h⟩
  | some l =>
    rw [hbelow] at hfrom
    have hnext : s.walk.nextStatement? = some .leftBrace := by
      rw [h.walk]
      exact (Program.From.statement? hfrom).trans (o.below_reads l hbelow)
    have hlt : i + 1 < p.lines.size := (Array.getElem?_eq_some_iff.mp hfrom.head).1
    refine ⟨{ s with walk := ⟨p, i + 2, fs⟩ }, ?_, rfl, h.phase, h.view⟩
    change s.takeBrace = _
    rw [takeBrace, hnext]
    dsimp only
    rw [h.walk, Walk.moveTo, Nat.min_eq_left hlt]

theorem execute_block_of_startsChain {head : Head} {brace : BracePlace}
    (hidx : s.walk.index? = some i) (h : head.startsChain = true) :
    execute env (.block head brace) s = openIf env head brace i s := by
  rw [execute, hidx]
  cases head with
  | ifHolds | ifArgs => rfl
  | elseIf | otherwise => cases h

theorem execute_block_of_else {head : Head} {brace : BracePlace}
    (hidx : s.walk.index? = some i) (h : head.startsChain = false) :
    execute env (.block head brace) s = openElse env head brace i s := by
  rw [execute, hidx]
  cases head with
  | ifHolds | ifArgs => cases h
  | elseIf | otherwise => rfl

theorem At.openIf (o : Opening lead) (h : At p (i + 1) base v s)
    (hfrom : p.From (i + 1) (o.below?.toList ++ rest)) :
    ∃ t, openIf env o.head (placeOf o.below?) i s =
        (if (o.head.test env v).1 then .next else .skipBlock, t) ∧
      At p (i + o.lines.length) (⟨i, (o.head.test env v).1⟩ :: base) (o.head.test env v).2 t := by
  obtain ⟨hresult, hat⟩ := h.decideHead env o.head
  obtain ⟨t, henter, ht⟩ := (hat.openFrame ⟨i, (o.head.test env v).1⟩).enterBlock o hfrom
  refine ⟨t, ?_, ht⟩
  rw [Script.openIf]
  dsimp only
  rw [hresult, henter]

theorem At.openElse {top : Frame} (o : Opening lead) (h : At p (i + 1) (top :: base) v s)
    (hfrom : p.From (i + 1) (o.below?.toList ++ rest)) (htop : top.satisfied = false) :
    ∃ t, openElse env o.head (placeOf o.below?) i s =
        (if (o.head.test env v).1 then .next else .skipBlock, t) ∧
      At p (i + o.lines.length) (⟨i, (o.head.test env v).1⟩ :: base) (o.head.test env v).2 t := by
  obtain ⟨s', henter, hs'⟩ := h.enterBlock o hfrom
  obtain ⟨hresult, hat⟩ := hs'.decideHead env o.head
  refine ⟨_, ?_, hat.replaceFrame ⟨i, (o.head.test env v).1⟩⟩
  have hifs : s'.walk.ifs = top :: base := by rw [hs'.walk]
  rw [Script.openElse, henter]
  dsimp only
  rw [hifs]
  dsimp only
  rw [htop, hresult]
  rfl

/-- A part with a block is entered when its condition holds, and else passed over. -/
theorem At.execute_opening (env : Env) (o : Opening lead) (h : At p (i + 1) fs v s)
    (hidx : s.walk.index? = some i) (hfrom : p.From (i + 1) (o.below?.toList ++ rest))
    (hentered : Entered lead fs base) :
    ∃ t, execute env (.block o.head (placeOf o.below?)) s =
        (if (o.head.test env v).1 then .next else .skipBlock, t) ∧
      At p (i + o.lines.length) (⟨i, (o.head.test env v).1⟩ :: base) (o.head.test env v).2 t := by
  have hfits := o.fits
  cases lead with
  | first =>
    obtain rfl : fs = base := hentered
    rw [execute_block_of_startsChain hidx hfits]
    exact h.openIf o hfrom
  | own | joined =>
    obtain ⟨top, rfl, htop⟩ := hentered
    rw [execute_block_of_else hidx hfits.1]
    exact h.openElse o hfrom htop

/-- A part with a block is passed over when a branch of its chain has run. -/
theorem At.execute_opening_of_satisfied (env : Env) {top : Frame} (o : Opening lead)
    (h : At p (i + 1) (top :: base) v s) (hidx : s.walk.index? = some i)
    (hfrom : p.From (i + 1) (o.below?.toList ++ rest)) (hlead : lead ≠ .first)
    (htop : top.satisfied = true) :
    ∃ t, execute env (.block o.head (placeOf o.below?)) s = (.skipBlock, t) ∧
      At p (i + o.lines.length) (⟨i, true⟩ :: base) v t := by
  have hstarts := o.fits.startsChain_eq_false hlead
  obtain ⟨s', henter, hs'⟩ := h.enterBlock o hfrom
  refine ⟨_, ?_, hs'.replaceFrame ⟨i, true⟩⟩
  have hifs : s'.walk.ifs = top :: base := by rw [hs'.walk]
  rw [execute_block_of_else hidx hstarts, Script.openElse, henter]
  dsimp only
  rw [hifs]
  dsimp only
  rw [htop]
  rfl

/-- A part on one line decides whether its body runs, and stays open. -/
theorem At.enterSingle (l : OneLine lead) (h : At p (i + 1) fs v s)
    (hentered : Entered lead fs base) :
    ∃ t, enterSingle env l.head i s = ((l.head.test env v).1, t) ∧
      At p (i + 1) (⟨i, (l.head.test env v).1⟩ :: base) (l.head.test env v).2 t := by
  obtain ⟨hresult, hat⟩ := h.decideHead env l.head
  have hfits := l.fits
  cases lead with
  | first =>
    obtain rfl : fs = base := hentered
    refine ⟨_, ?_, hat.openFrame ⟨i, (l.head.test env v).1⟩⟩
    rw [← hresult]
    cases hhead : l.head with
    | ifHolds | ifArgs => rfl
    | elseIf | otherwise => rw [hhead] at hfits; cases hfits
  | own | joined =>
    obtain ⟨top, rfl, htop⟩ := hentered
    refine ⟨_, ?_, hat.replaceFrame ⟨i, (l.head.test env v).1⟩⟩
    have hifs : s.walk.ifs = top :: base := by rw [h.walk]
    rw [← hresult]
    cases hhead : l.head with
    | ifHolds | ifArgs => rw [hhead] at hfits; cases hfits.1
    | elseIf | otherwise =>
      rw [Script.enterSingle.eq_def]
      dsimp only
      rw [hifs]
      dsimp only
      rw [htop]
      rfl

/-- The body of a part on one line does not run when a branch of its chain has. -/
theorem At.enterSingle_of_satisfied (env : Env) {top : Frame} (l : OneLine lead)
    (h : At p (i + 1) (top :: base) v s) (hlead : lead ≠ .first) (htop : top.satisfied = true) :
    ∃ t, Script.enterSingle env l.head i s = (false, t) ∧ At p (i + 1) (⟨i, true⟩ :: base) v t := by
  have hstarts := l.fits.startsChain_eq_false hlead
  refine ⟨_, ?_, h.replaceFrame ⟨i, true⟩⟩
  have hifs : s.walk.ifs = top :: base := by rw [h.walk]
  cases hhead : l.head with
  | ifHolds | ifArgs => rw [hhead] at hstarts; cases hstarts
  | elseIf | otherwise =>
    rw [Script.enterSingle.eq_def]
    dsimp only
    rw [hifs]
    dsimp only
    rw [htop]
    rfl

/-- Where no branch of its chain has run, a part tests its head. -/
theorem At.tests_of_entered {head : Head} (h : At p q fs v s) (hfits : lead.Fits head line)
    (hentered : Entered lead fs base) : s.tests head = true := by
  cases lead with
  | first => rw [tests, show head.startsChain = true from hfits, Bool.true_or]
  | own | joined =>
    obtain ⟨top, rfl, htop⟩ := hentered
    rw [tests, h.walk, List.head?_cons, Option.any_some, htop, Bool.not_false, Bool.or_true]

theorem At.tests_of_satisfied {head : Head} {top : Frame} (h : At p q (top :: base) v s)
    (hfits : lead.Fits head line) (hlead : lead ≠ .first) (htop : top.satisfied = true) :
    s.tests head = false := by
  rw [tests, hfits.startsChain_eq_false hlead, h.walk, List.head?_cons, Option.any_some, htop]
  rfl

/-- A part with a block comes to an end when its head does, if it is tested. -/
theorem At.ends_opening (env : Env) (o : Opening lead) (h : At p (i + 1) fs v s)
    (hidx : s.walk.index? = some i) (hfrom : p.From (i + 1) (o.below?.toList ++ rest)) :
    ends env (.block o.head (placeOf o.below?)) s =
      (!s.tests o.head || o.head.ends env v.scopes) := by
  obtain ⟨t, henter, -⟩ := h.enterBlock o hfrom
  rw [ends_block env hidx (by rw [henter]), ← h.view]
  rfl

/-- A part on one line comes to an end when its head does, and its body if it runs. -/
theorem At.ends_oneLine (l : OneLine lead) {holds : Bool} (h : At p q fs v s)
    (hidx : s.walk.index? = some i) (henter : Script.enterSingle env l.head i s = (holds, t)) :
    ends env (.single l.head l.body) s =
      ((!s.tests l.head || l.head.ends env v.scopes) && (!holds || ends env l.body t)) := by
  rw [ends, hidx, ← h.view]
  dsimp only
  rw [henter]
  cases holds <;> rfl

theorem skipRivals_eq (s : Script) {head : Head} (h : head.countsArgs = false) :
    s.skipRivals head = { s with walk := s.walk.skipElses } := by
  cases head with
  | ifArgs => cases h
  | _ => rfl

/-- A part on one line whose body has run passes over the parts on one line behind it. -/
theorem At.execute_single {head : Head} {body : Statement}
    (hdirect : body.isDirect = true) (hhead : head.countsArgs = false)
    (hidx : s.walk.index? = some i) (henter : Script.enterSingle env head i s = (true, t))
    (h : At p (i + 1) fs v t) :
    ∃ u, execute env (.single head body) s = (.next, u) ∧
      At p (Walk.skipElses ⟨p, i + 1, fs⟩).next fs (body.perform env v) u := by
  obtain ⟨hflow, hview⟩ := t.view_execute env hdirect
  have hc := execute_sameCourse env (Statement.steers_of_isDirect hdirect) t
  rw [execute_single_of_true hidx henter, hflow, hc.walk, if_pos rfl, skipRivals_eq _ hhead]
  refine ⟨_, rfl, ?_, hc.phase.trans h.phase, hview.trans (by rw [h.view])⟩
  rw [hc.walk, h.walk]
  rfl

/-! ## Passing over blocks and chains -/

/-- Behind the brace of a block that was passed over its conditional stays open if an `else`
follows. -/
theorem At.proceed_of_brace {frame : Frame} {j k : Nat} (h : At p j (frame :: base) v s)
    (hskip : Walk.skipBlock ⟨p, j, frame :: base⟩ = (some .brace, ⟨p, k, frame :: base⟩)) :
    ∃ t, proceed (.skipBlock, s) = .again t ∧
      At p k (if p.isElseAt k then frame :: base else base) v t := by
  have hs : s.skipBlock =
      (true, { s with walk := ⟨p, k, if p.isElseAt k then frame :: base else base⟩ }) := by
    rw [Script.skipBlock, h.walk, hskip]
    dsimp only
    change (true, { s with walk := if p.isElseAt k = true then _ else _ }) = _
    cases p.isElseAt k with
    | true => rfl
    | false => rfl
  exact ⟨_, by rw [proceed, hs, ofSkip], h.withWalk _ _⟩

theorem At.proceed_of_sibling {j k : Nat} (h : At p j fs v s)
    (hskip : Walk.skipBlock ⟨p, j, fs⟩ = (some .sibling, ⟨p, k, fs⟩)) :
    ∃ t, proceed (.skipBlock, s) = .again t ∧ At p k fs v t := by
  have hs : s.skipBlock = (true, { s with walk := ⟨p, k, fs⟩ }) := by
    rw [Script.skipBlock, h.walk, hskip]
  exact ⟨_, by rw [proceed, hs, ofSkip], h.withWalk _ _⟩

/-- A brace closes a satisfied conditional and passes over the rest of its chain. -/
theorem At.proceed_rightBrace (env : Env) {top : Frame} (h : At p q (top :: base) v s)
    (htop : top.satisfied = true)
    (hskip : Walk.skipChain ⟨p, q, base⟩ = (true, ⟨p, q', base⟩)) :
    ∃ t, proceed (execute env .rightBrace s) = .again t ∧ At p q' base v t := by
  have hclose : execute env .rightBrace s = (.skipChain, { s with walk := ⟨p, q, base⟩ }) := by
    rw [execute, closeBlock, h.walk]
    dsimp only
    rw [htop]
    rfl
  refine ⟨_, ?_, h.withWalk q' base⟩
  rw [hclose, proceed, Script.skipChain]
  dsimp only
  rw [hskip]
  rfl

end Script

end StreamScript
