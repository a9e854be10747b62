import StreamScript.Proofs.Blocks.Abreast
import StreamScript.Proofs.LoopBound
import StreamScript.Proofs.Words

/-!
# Comments between lines

A comment does nothing when it is carried out.  Yet it is a line, and a script
looks at the line behind a brace to see whether a chain goes on there.  So a
comment in front of an `else` takes the `else` away from its chain, and it may then
fall to the conditional around it (`comment_before_else_sent`).

Everywhere else a comment is inert.  A script with the comment and one without walk
side by side (`Beside`): each line of the one is matched by the same line of the
other, and the comment is a step of its own that the other does not make
(`Comes.beside`).  Such scripts make no jumps, so that both come to their end or hang
in the same line, and they have sent out the same by then (`comment_inert`).
-/

namespace StreamScript

open Text Number

/-- Draws a whole number between two others, when so many have been drawn before. -/
def View.draw (v : View) (env : Env) (lo hi : String) (drawn : Nat) : View × Nat :=
  match readInt64? (trim (v.substitute env lo).toList),
      readInt64? (trim (v.substitute env hi).toList) with
  | some a, some b =>
      let number := env.draws.pick drawn (min a.toInt b.toInt) (max a.toInt b.toInt)
      (v.setLocal "r" (String.ofList (intText number)), drawn + 1)
  | _, _ => (v, drawn)

namespace Script

variable {env : Env} {n : Nat} {p p' : Program} {s t : Script}

/-! ## Random numbers -/

section Random

variable (s)

theorem drawn_debug (level : DebugLevel) (message : String) :
    (s.debug level message).drawn = s.drawn := by
  unfold debug
  split <;> rfl

theorem drawn_setLocal (name value : String) : (s.setLocal name value).drawn = s.drawn :=
  s.drawn_debug _ _

theorem drawn_doMath (env : Env) (var op number : String) :
    (s.doMath env var op number).drawn = s.drawn := by
  unfold doMath
  dsimp only
  split
  · rfl
  · split
    · exact s.drawn_setLocal _ _
    · rfl

theorem drawn_decideHead (env : Env) (head : Head) :
    (s.decideHead env head).2.drawn = s.drawn := by
  have hcondition (condition : Phrase) : (s.decideCondition env condition).2.drawn = s.drawn := by
    unfold decideCondition
    dsimp only
    split <;> exact s.drawn_debug _ _
  cases head with
  | ifHolds condition | elseIf condition => exact hcondition condition
  | otherwise => rfl
  | ifArgs count => exact s.drawn_debug _ _

/-- A direct statement draws no number. -/
theorem drawn_execute (env : Env) {statement : Statement} (h : statement.isDirect = true) :
    (execute env statement s).2.drawn = s.drawn := by
  cases statement with
  | debug level =>
    rw [execute, setDebugLevel]
    dsimp only
    split <;> rfl
  | shift | unsetVar | toggleAction => exact drawn_debug _ _ _
  | save | setVar | eval | evalMath => exact s.drawn_setLocal _ _
  | math var op number => exact s.drawn_doMath env var op number
  | action name command pattern =>
    rw [execute, drawn_debug, addAction]
    dsimp only
    split <;> rfl
  | label | comment | echo | put | send | printBox | matchText | matchRegex => rfl
  | _ => cases h

/-- Drawing a number does to a script what it does to its view. -/
theorem view_doRandom (env : Env) (lo hi : String) :
    (s.doRandom env lo hi).view = (s.view.draw env lo hi s.drawn).1 ∧
      (s.doRandom env lo hi).drawn = (s.view.draw env lo hi s.drawn).2 := by
  unfold doRandom View.draw
  simp only [substitute_eq_view]
  cases readInt64? (trim (s.view.substitute env lo).toList) with
  | none => exact ⟨s.view_report _, rfl⟩
  | some a =>
    cases readInt64? (trim (s.view.substitute env hi).toList) with
    | none => exact ⟨s.view_report _, rfl⟩
    | some b => exact ⟨view_setLocal _ _ _, drawn_setLocal _ _ _⟩

end Random

/-! ## Two scripts -/

theorem takeBrace_of_brace (h : s.walk.nextStatement? = some .leftBrace) :
    s.takeBrace = (true, { s with walk := s.walk.moveTo (s.walk.next + 1) }) := by
  rw [takeBrace, h]

theorem takeBrace_of_no_brace (h : s.walk.nextStatement? ≠ some .leftBrace) :
    s.takeBrace = (false, s.report "Expected \x7b") := by
  unfold takeBrace
  split
  · next hs => exact absurd hs h
  · rfl

/-- Without one-line conditionals there is none to close in front of a line. -/
theorem atStatement_of_straight
    (h : ∀ k statement, s.walk.program.statement? k = some statement → statement.isStraight = true)
    (line : Line) (statement : Statement) :
    s.atStatement line statement = s.behindLine.remember line := by
  have hsingle (frame : Frame) : s.walk.program.isSingleAt frame = false := by
    rw [Program.isSingleAt]
    split
    · next opener hopener => exact Statement.isSingle_of_isStraight (h _ _ hopener)
    · rfl
  rw [atStatement, closeSingle]
  split
  · rfl
  · next top _ _ =>
    change (if (s.walk.program.isSingleAt top && _) = true then _ else _) = _
    rw [hsingle]
    rfl

/-- Two scripts that walk side by side, know the same and have sent out the same. -/
structure Beside (n : Nat) (p p' : Program) (s t : Script) : Prop where
  walk : s.walk.Beside n p p' t.walk
  phase : s.phase = .running
  phase' : t.phase = .running
  view : t.view = s.view
  drawn : t.drawn = s.drawn

namespace Beside

theorem withWalk (h : Beside n p p' s t) {w w' : Walk} (hw : w.Beside n p p' w') :
    Beside n p p' { s with walk := w } { t with walk := w' } :=
  ⟨hw, h.phase, h.phase', h.view, h.drawn⟩

theorem report (h : Beside n p p' s t) (message message' : String) :
    Beside n p p' (s.report message) (t.report message') :=
  ⟨h.walk, h.phase, h.phase', by rw [view_report, view_report, h.view], h.drawn⟩

theorem decideHead (h : Beside n p p' s t) (env : Env) (head : Head) :
    (t.decideHead env head).1 = (s.decideHead env head).1 ∧
      Beside n p p' (s.decideHead env head).2 (t.decideHead env head).2 := by
  obtain ⟨htest, hview⟩ := s.view_decideHead env head
  obtain ⟨htest', hview'⟩ := t.view_decideHead env head
  have hs := (SameCourse.refl s).decideHead env head
  have ht := (SameCourse.refl t).decideHead env head
  refine ⟨by rw [htest, htest', h.view], ?_, hs.phase.trans h.phase,
    ht.phase.trans h.phase', ?_, ?_⟩
  · rw [hs.walk, ht.walk]
    exact h.walk
  · rw [hview, hview', h.view]
  · rw [drawn_decideHead, drawn_decideHead, h.drawn]

theorem openFrame (h : Beside n p p' s t) (frame frame' : Frame)
    (hframe : frame'.satisfied = frame.satisfied) :
    Beside n p p' (s.openFrame frame) (t.openFrame frame') :=
  h.withWalk (h.walk.push hframe)

theorem replaceFrame (h : Beside n p p' s t) (frame frame' : Frame)
    (hframe : frame'.satisfied = frame.satisfied) :
    Beside n p p' (s.replaceFrame frame) (t.replaceFrame frame') :=
  h.withWalk (h.walk.replaceTop hframe)

/-- Both find the brace of a block, or neither does. -/
theorem takeBrace (hc : p.Commented n p') (h : Beside n p p' s t) :
    t.takeBrace.1 = s.takeBrace.1 ∧ Beside n p p' s.takeBrace.2 t.takeBrace.2 := by
  obtain ⟨rfl, rfl, hnext, hifs⟩ := h.walk
  have hiff := hc.leftBrace_iff hnext
  by_cases hbrace : s.walk.nextStatement? = some .leftBrace
  · have hbrace' : t.walk.nextStatement? = some .leftBrace := hiff.mpr hbrace
    have hmove {w : Walk} (h : w.nextStatement? = some .leftBrace) :
        w.moveTo (w.next + 1) = { w with next := w.next + 1 } := by
      rw [Walk.moveTo, Nat.min_eq_left (Walk.lt_size_of_nextStatement? h)]
    rw [takeBrace_of_brace hbrace, takeBrace_of_brace hbrace', hmove hbrace, hmove hbrace']
    exact ⟨rfl, h.withWalk ⟨rfl, rfl, (hc.abreast_of_statement? hnext hbrace).succ, hifs⟩⟩
  · rw [takeBrace_of_no_brace hbrace, takeBrace_of_no_brace fun h => hbrace (hiff.mp h)]
    exact ⟨rfl, h.report _ _⟩

theorem enterBlock (hc : p.Commented n p') (h : Beside n p p' s t) (brace : BracePlace) :
    (t.enterBlock brace).1 = (s.enterBlock brace).1 ∧
      Beside n p p' (s.enterBlock brace).2 (t.enterBlock brace).2 := by
  cases brace with
  | here => exact ⟨rfl, h⟩
  | nextLine => exact h.takeBrace hc

/-! ### Statements -/

/-- What came of a statement in two scripts.  Where the rest of a chain is to be passed over, both
have an `else` in front of them or neither has. -/
structure Flows (n : Nat) (p p' : Program) (r r' : Flow × Script) : Prop where
  flow : r'.1 = r.1
  beside : Beside n p p' r.2 r'.2
  isElse : r.1 = .skipChain →
    p'.isElseAt r'.2.walk.next = p.isElseAt r.2.walk.next

theorem flows (h : Beside n p p' s t) {flow : Flow} (hflow : flow ≠ .skipChain) :
    Flows n p p' (flow, s) (flow, t) :=
  ⟨rfl, h, fun heq => absurd heq hflow⟩

theorem openIf (hc : p.Commented n p') (h : Beside n p p' s t) (env : Env) (head : Head)
    (brace : BracePlace) (idx idx' : Nat) :
    Flows n p p' (openIf env head brace idx s) (openIf env head brace idx' t) := by
  obtain ⟨hresult, hdecided⟩ := h.decideHead env head
  obtain ⟨hentered, hbeside⟩ := (hdecided.openFrame ⟨idx, (s.decideHead env head).1⟩
    ⟨idx', (t.decideHead env head).1⟩ hresult).enterBlock hc brace
  rw [Script.openIf, Script.openIf]
  dsimp only
  rw [hresult] at hentered hbeside ⊢
  generalize (Script.openFrame ⟨idx, _⟩ _).enterBlock brace = r at hentered hbeside ⊢
  generalize (Script.openFrame ⟨idx', _⟩ _).enterBlock brace = r' at hentered hbeside ⊢
  obtain ⟨entered, s'⟩ := r
  obtain ⟨entered', t'⟩ := r'
  obtain rfl : entered' = entered := hentered
  cases entered' with
  | false => exact hbeside.flows (by decide)
  | true => exact hbeside.flows (by cases (s.decideHead env head).1 <;> decide)

theorem openElse (hc : p.Commented n p') (h : Beside n p p' s t) (env : Env) (head : Head)
    (brace : BracePlace) (idx idx' : Nat) :
    Flows n p p' (openElse env head brace idx s) (openElse env head brace idx' t) := by
  obtain ⟨hentered, hbeside⟩ := h.enterBlock hc brace
  rw [Script.openElse, Script.openElse]
  generalize s.enterBlock brace = r at hentered hbeside ⊢
  generalize t.enterBlock brace = r' at hentered hbeside ⊢
  obtain ⟨entered, s⟩ := r
  obtain ⟨entered', t⟩ := r'
  obtain rfl : entered' = entered := hentered
  cases entered' with
  | false => exact hbeside.flows (by decide)
  | true =>
    have hifs := hbeside.walk.ifs
    dsimp only at hifs hbeside ⊢
    generalize s.walk.ifs = fs at hifs ⊢
    generalize t.walk.ifs = fs' at hifs ⊢
    cases hifs with
    | nil =>
      dsimp only
      exact ((hbeside.report _ _).openFrame ⟨idx, true⟩ ⟨idx', true⟩ rfl).flows (by decide)
    | @cons top top' _ _ htop _ =>
      dsimp only
      rw [htop]
      cases top.satisfied with
      | true =>
        rw [if_pos rfl, if_pos rfl]
        exact (hbeside.replaceFrame ⟨idx, true⟩ ⟨idx', true⟩ rfl).flows (by decide)
      | false =>
        obtain ⟨hresult, hdecided⟩ := hbeside.decideHead env head
        rw [if_neg Bool.false_ne_true, if_neg Bool.false_ne_true, hresult]
        refine (hdecided.replaceFrame ⟨idx, _⟩ ⟨idx', _⟩ rfl).flows ?_
        cases (s.decideHead env head).1 <;> decide

theorem closeBlock (h : Beside n p p' s t)
    (helse : p'.isElseAt t.walk.next = p.isElseAt s.walk.next) :
    Flows n p p' s.closeBlock t.closeBlock := by
  have hifs := h.walk.ifs
  have houter {fs fs' : List Frame} (hfs : SameFrames fs fs') :
      Beside n p p' { s with walk := { s.walk with ifs := fs } }
        { t with walk := { t.walk with ifs := fs' } } :=
    h.withWalk { h.walk with ifs := hfs }
  rw [Script.closeBlock, Script.closeBlock]
  generalize s.walk.ifs = fs at hifs ⊢
  generalize t.walk.ifs = fs' at hifs ⊢
  cases hifs with
  | nil => exact (h.report _ _).flows (by decide)
  | @cons top top' _ _ htop hfs =>
    dsimp only
    rw [htop]
    exact ⟨rfl, houter hfs, fun _ => helse⟩

theorem doRandom (h : Beside n p p' s t) (env : Env) (lo hi : String) :
    Beside n p p' (s.doRandom env lo hi) (t.doRandom env lo hi) := by
  have hs := s.sameStand_doRandom env lo hi
  have ht := t.sameStand_doRandom env lo hi
  refine ⟨?_, hs.phase.trans h.phase, ht.phase.trans h.phase', ?_, ?_⟩
  · rw [hs.walk, ht.walk]
    exact h.walk
  · rw [(view_doRandom s env lo hi).1, (view_doRandom t env lo hi).1, h.view, h.drawn]
  · rw [(view_doRandom s env lo hi).2, (view_doRandom t env lo hi).2, h.view, h.drawn]

/-- **A statement does the same to two scripts that walk side by side.**  They stand behind a line
that is the same in both. -/
theorem execute (hc : p.Commented n p') (h : Beside n p p' s t) (env : Env)
    {statement : Statement} (hstraight : statement.isStraight = true) {k k' : Nat}
    (hk : s.walk.index? = some k) (hk' : t.walk.index? = some k')
    (helse : statement = .rightBrace →
      p'.isElseAt t.walk.next = p.isElseAt s.walk.next) :
    Flows n p p' (execute env statement s) (execute env statement t) := by
  have hdirect (hdirect : statement.isDirect = true) :
      Flows n p p' (Script.execute env statement s) (Script.execute env statement t) := by
    have hs := execute_sameCourse env (Statement.steers_of_isDirect hdirect) s
    have ht := execute_sameCourse env (Statement.steers_of_isDirect hdirect) t
    obtain ⟨hflow, hview⟩ := s.view_execute env hdirect
    obtain ⟨hflow', hview'⟩ := t.view_execute env hdirect
    refine ⟨hflow'.trans hflow.symm, ⟨?_, ?_, ?_, ?_, ?_⟩, fun hskip => ?_⟩
    · rw [hs.walk, ht.walk]
      exact h.walk
    · exact hs.phase.trans h.phase
    · exact ht.phase.trans h.phase'
    · rw [hview, hview', h.view]
    · rw [drawn_execute s env hdirect, drawn_execute t env hdirect, h.drawn]
    · cases hflow.symm.trans hskip
  cases statement with
  | block head brace =>
    cases hstarts : head.startsChain with
    | true =>
      rw [execute_block_of_startsChain hk hstarts, execute_block_of_startsChain hk' hstarts]
      exact h.openIf hc env head brace k k'
    | false =>
      rw [execute_block_of_else hk hstarts, execute_block_of_else hk' hstarts]
      exact h.openElse hc env head brace k k'
  | leftBrace => exact h.flows (by decide)
  | rightBrace => exact h.closeBlock (helse rfl)
  | exit => exact h.flows (by decide)
  | random lo hi => exact (h.doRandom env lo hi).flows (by decide)
  | _ => exact hdirect hstraight

/-! ### Steps -/

theorem cancel (h : Beside n p p' s t) : t.cancel.view = s.cancel.view := by
  rw [view_cancel h.phase, view_cancel h.phase', h.view]

/-- A statement comes to an end in both or in neither. -/
theorem ends (hc : p.Commented n p') (h : Beside n p p' s t) (env : Env)
    {statement : Statement} (hstraight : statement.isStraight = true) {k k' : Nat}
    (hk : s.walk.index? = some k) (hk' : t.walk.index? = some k') :
    Script.ends env statement t = Script.ends env statement s := by
  have hscopes : t.scopes = s.scopes := congrArg View.scopes h.view
  cases statement with
  | block head brace =>
    have hifs := h.walk.ifs
    have htests : t.tests head = s.tests head := by
      rw [tests, tests]
      generalize s.walk.ifs = fs at hifs ⊢
      generalize t.walk.ifs = fs' at hifs ⊢
      cases hifs with
      | nil => rfl
      | cons htop _ => rw [List.head?_cons, List.head?_cons, Option.any_some, Option.any_some, htop]
    rw [Script.ends, Script.ends, hk, hk', htests, hscopes, (h.enterBlock hc brace).1,
      Option.isNone_some, Option.isNone_some]
  | single | goto | gosub | leave => cases hstraight
  | rightBrace => exact congrArg (Statement.ends env .rightBrace) hscopes
  | _ => rw [ends_of_steers env rfl, ends_of_steers env rfl, hscopes]

/-- What came of a step in two scripts. -/
inductive Steps (n : Nat) (p p' : Program) : Step → Step → Prop where
  | done {s t : Script} (h : t.view = s.view) : Steps n p p' (.done s) (.done t)
  | again {s t : Script} (h : Beside n p p' s t) : Steps n p p' (.again s) (.again t)

theorem ofSkip {r r' : Bool × Script} (hclosed : r'.1 = r.1) (h : Beside n p p' r.2 r'.2) :
    Steps n p p' (ofSkip r) (ofSkip r') := by
  obtain ⟨closed, s⟩ := r
  obtain ⟨closed', t⟩ := r'
  obtain rfl : closed' = closed := hclosed
  cases closed' with
  | true => exact .again h
  | false => exact .done (h.report _ _).cancel

theorem skipBlock (hc : p.Commented n p') (h : Beside n p p' s t) :
    t.skipBlock.1 = s.skipBlock.1 ∧ Beside n p p' s.skipBlock.2 t.skipBlock.2 := by
  obtain ⟨hstop, hbeside, helse⟩ := h.walk.skipBlock hc
  rw [Script.skipBlock, Script.skipBlock]
  generalize s.walk.skipBlock = r at hstop hbeside helse ⊢
  generalize t.walk.skipBlock = r' at hstop hbeside helse ⊢
  obtain ⟨stop?, w⟩ := r
  obtain ⟨stop?', w'⟩ := r'
  obtain rfl : stop?' = stop? := hstop
  cases stop?' with
  | none => exact ⟨rfl, h.withWalk hbeside⟩
  | some stop =>
    cases stop with
    | sibling => exact ⟨rfl, h.withWalk hbeside⟩
    | brace =>
      obtain ⟨rfl, rfl, -⟩ := id hbeside
      refine ⟨rfl, h.withWalk ?_⟩
      change (if w.program.isElseAt w.next then w else w.pop).Beside _ _ _
        (if w'.program.isElseAt w'.next then w' else w'.pop)
      rw [helse]
      split
      · exact hbeside
      · exact hbeside.pop

theorem proceed (hc : p.Commented n p') {r r' : Flow × Script} (h : Flows n p p' r r') :
    Steps n p p' (proceed r) (proceed r') := by
  obtain ⟨flow, s⟩ := r
  obtain ⟨flow', t⟩ := r'
  obtain ⟨rfl, hbeside, helse⟩ := h
  cases flow' with
  | next => exact .again hbeside
  | wait => exact .done hbeside.view
  | exit => exact .done hbeside.cancel
  | skipBlock =>
    obtain ⟨hclosed, hskip⟩ := hbeside.skipBlock hc
    exact ofSkip hclosed hskip
  | skipChain =>
    obtain ⟨hclosed, hskip⟩ := hbeside.walk.skipChain hc (helse rfl)
    exact ofSkip hclosed (hbeside.withWalk hskip)

theorem behindLine (h : Beside n p p' s t) (hk : Abreast n s.walk.next t.walk.next)
    (line line' : Line) :
    Beside n p p' (s.behindLine.remember line) (t.behindLine.remember line') :=
  ⟨{ h.walk with next := hk.succ }, h.phase, h.phase', h.view, h.drawn⟩

theorem atStatement (hc : p.Commented n p') (h : Beside n p p' s t)
    (hk : Abreast n s.walk.next t.walk.next) (line line' : Line) (statement : Statement) :
    Beside n p p' (s.atStatement line statement) (t.atStatement line' statement) := by
  obtain ⟨rfl, rfl, -, -⟩ := id h.walk
  rw [atStatement_of_straight fun _ _ => hc.isStraight,
    atStatement_of_straight fun _ _ => hc.isStraight']
  exact h.behindLine hk line line'

/-- Two scripts abreast have the same line in front of them, or none. -/
theorem nextLine? (hc : p.Commented n p') (h : Beside n p p' s t)
    (hk : Abreast n s.walk.next t.walk.next) :
    s.nextLine? = none ∧ t.nextLine? = none ∨
      ∃ line line', s.nextLine? = some line ∧ t.nextLine? = some line' ∧
        line'.statement? = line.statement? := by
  obtain ⟨rfl, rfl, -, -⟩ := id h.walk
  rw [Script.nextLine?, Script.nextLine?, if_pos h.phase, if_pos h.phase']
  cases hline : s.walk.program.lines[s.walk.next]? with
  | none => exact .inl ⟨rfl, hc.noLine hk hline⟩
  | some line =>
    obtain ⟨line', hline', -, hs⟩ := hc.line hk hline
    exact .inr ⟨line, line', rfl, hline', hs⟩

theorem statement?_of_nextLine? {line : Line} {statement : Statement}
    (h : s.nextLine? = some line) (hs : line.statement? = some statement) :
    s.walk.program.statement? s.walk.next = some statement := by
  rw [Program.statement?, getElem?_of_nextLine? h, Option.bind_some, hs]

/-- **A line that is the same in both keeps two scripts side by side.** -/
theorem step (hc : p.Commented n p') (h : Beside n p p' s t)
    (hk : Abreast n s.walk.next t.walk.next) (env : Env) :
    Steps n p p' (step env s) (step env t) := by
  obtain ⟨hnext, hnext'⟩ | ⟨line, line', hnext, hnext', hs'⟩ := h.nextLine? hc hk
  · have hend {s : Script} (h : s.nextLine? = none) (hphase : s.phase = .running) :
        s.walk.advance? = none := by
      rw [Script.nextLine?, if_pos hphase] at h
      exact if_neg (Nat.not_lt.mpr (Array.getElem?_eq_none_iff.mp h))
    rw [step_of_advance?_eq_none env h.phase (hend hnext h.phase),
      step_of_advance?_eq_none env h.phase' (hend hnext' h.phase')]
    exact .done h.cancel
  · rw [step_of_nextLine? env hnext, step_of_nextLine? env hnext']
    refine proceed hc ?_
    cases hs : line.statement? with
    | none =>
      rw [runLine_of_no_statement env hnext hs, runLine_of_no_statement env hnext' (hs'.trans hs)]
      exact ((h.behindLine hk line line').report _ _).flows (by decide)
    | some statement =>
      have hthere := statement?_of_nextLine? hnext hs
      rw [h.walk.program] at hthere
      rw [runLine_of_statement env hnext hs, runLine_of_statement env hnext' (hs'.trans hs)]
      refine (h.atStatement hc hk line line' statement).execute hc env (hc.isStraight hthere)
        (index?_atStatement hnext line statement) (index?_atStatement hnext' line' statement) ?_
      rintro rfl
      rw [(walk_atStatement line _ s).1, (walk_atStatement line' _ t).1]
      exact hc.isElseAt_succ hk hthere

/-- It comes to an end in both or in neither. -/
theorem lineEnds (hc : p.Commented n p') (h : Beside n p p' s t)
    (hk : Abreast n s.walk.next t.walk.next) (env : Env) : t.lineEnds env = s.lineEnds env := by
  obtain ⟨hnext, hnext'⟩ | ⟨line, line', hnext, hnext', hs'⟩ := h.nextLine? hc hk
  · rw [lineEnds_of_no_line env hnext, lineEnds_of_no_line env hnext']
  · cases hs : line.statement? with
    | none =>
      rw [lineEnds_of_no_statement env hnext hs,
        lineEnds_of_no_statement env hnext' (hs'.trans hs)]
    | some statement =>
      have hthere := statement?_of_nextLine? hnext hs
      rw [h.walk.program] at hthere
      rw [lineEnds_of_statement env hnext hs, lineEnds_of_statement env hnext' (hs'.trans hs)]
      exact (h.atStatement hc hk line line' statement).ends hc env (hc.isStraight hthere)
        (index?_atStatement hnext line statement) (index?_atStatement hnext' line' statement)

/-- A script that has the comment in front of it steps behind it. -/
theorem exists_abreast (hc : p.Commented n p') (h : Beside n p p' s t) (env : Env) :
    ∃ met u, Runs env t met u ∧ (∀ v ∈ met, v.lineEnds env = true) ∧ Beside n p p' s u ∧
      Abreast n s.walk.next u.walk.next := by
  obtain hk | ⟨hk, hk'⟩ := h.walk.next
  · exact ⟨[], t, .nil t, fun _ hv => (by cases hv), h, hk⟩
  · obtain ⟨rfl, rfl, -, hifs⟩ := id h.walk
    obtain ⟨text, hcomment⟩ := hc.comment
    obtain ⟨line, hline, hs⟩ := Option.bind_eq_some_iff.mp hcomment
    have hnext : t.nextLine? = some line := by
      rw [Script.nextLine?, if_pos h.phase', hk', hline]
    have hstep : Script.step env t = .again (t.behindLine.remember line) := by
      rw [step_of_nextLine? env hnext, runLine_of_statement env hnext hs,
        atStatement_of_straight fun _ _ => hc.isStraight']
      rfl
    have hends : t.lineEnds env = true := lineEnds_of_statement env hnext hs
    have habreast : Abreast n s.walk.next (t.walk.next + 1) := .inr ⟨hk.ge, by rw [hk', hk]⟩
    refine ⟨[t], _, .single hstep, List.forall_mem_singleton.mpr hends,
      ⟨⟨rfl, rfl, habreast.near, hifs⟩, ?_, ?_, ?_, ?_⟩, habreast⟩
    · exact h.phase
    · exact h.phase'
    · exact h.view
    · exact h.drawn

end Beside

/-- **A call in the one meets with the same fate as in the other**, and both have sent out the
same. -/
theorem Comes.beside (hc : p.Commented n p') {met : List Script} {fate : Fate}
    (hcomes : Comes env s met fate) (h : Beside n p p' s t) :
    ∃ met' fate', Comes env t met' fate' ∧ fate'.isReturn = fate.isReturn ∧
      fate'.view = fate.view := by
  -- the other makes the step over the comment first, and then both make the same step
  induction hcomes generalizing t with
  | @done s u hends hstep =>
    obtain ⟨met, t', hruns, hmet, hbeside, hk⟩ := h.exists_abreast hc env
    have hends' := (hbeside.lineEnds hc hk env).trans hends
    have hsteps := hbeside.step hc hk env
    rw [hstep] at hsteps
    cases hstep' : step env t' with
    | done u' =>
      rw [hstep'] at hsteps
      cases hsteps with
      | done hview => exact ⟨_, _, hruns.comes hmet (.done hends' hstep'), rfl, hview⟩
    | again => rw [hstep'] at hsteps; cases hsteps
  | @hangs s hends =>
    obtain ⟨met, t', hruns, hmet, hbeside, hk⟩ := h.exists_abreast hc env
    have hends' := (hbeside.lineEnds hc hk env).trans hends
    exact ⟨_, _, hruns.comes hmet (.hangs hends'), rfl, hbeside.view⟩
  | @again s s' met fate hends hstep _ ih =>
    obtain ⟨met', t', hruns, hmet, hbeside, hk⟩ := h.exists_abreast hc env
    have hends' := (hbeside.lineEnds hc hk env).trans hends
    have hsteps := hbeside.step hc hk env
    rw [hstep] at hsteps
    cases hstep' : step env t' with
    | done => rw [hstep'] at hsteps; cases hsteps
    | again t'' =>
      rw [hstep'] at hsteps
      cases hsteps with
      | again hbeside' =>
        obtain ⟨met'', fate', hcomes', hsame⟩ := ih hbeside'
        exact ⟨_, fate', hruns.comes hmet (.again hends' hstep' hcomes'), hsame⟩

/-! ## Scripts without jumps -/

theorem jumps_of_isStraight {statement : Statement} (h : statement.isStraight = true) (env : Env)
    (s : Script) : jumps env statement s = false := by
  cases statement with
  | single | goto | gosub | leave => cases h
  | _ => rfl

/-- A script without jumps comes to its end after its lines have run once. -/
theorem exists_returns_of_straight
    (hstraight : ∀ k statement, p.statement? k = some statement → statement.isStraight = true)
    (env : Env) (s : Script) (hp : s.walk.program = p) :
    ∃ met u, Returns env s met u ∧ met.length ≤ p.lines.size - s.walk.next + 1 := by
  induction hm : p.lines.size - s.walk.next using Nat.strongRecOn generalizing s with
  | ind m ih =>
    subst hm
    cases hline : s.nextLine? with
    | none =>
      obtain ⟨u, hu⟩ := step_of_nextLine?_eq_none env hline
      exact ⟨[s], u, .done hu, Nat.le_add_left _ _⟩
    | some line =>
      have hlt := next_lt_size hline
      have hjump : makesJump env s = false := by
        rw [makesJump, hline]
        dsimp only
        cases hs : line.statement? with
        | none => rfl
        | some statement =>
          refine jumps_of_isStraight (hstraight s.walk.next statement ?_) env _
          rw [← hp, Program.statement?, getElem?_of_nextLine? hline, Option.bind_some, hs]
      have hstepped := stepped_step env hline
      rw [hjump] at hstepped
      cases hstep : step env s with
      | done u => exact ⟨[s], u, .done hstep, Nat.le_add_left _ _⟩
      | again t =>
        rw [hstep] at hstepped
        cases hstepped with
        | forward hforward =>
          have hnext : s.walk.next + 1 ≤ t.walk.next := hforward.next
          rw [hp] at hlt
          obtain ⟨met, u, hreturns, hlength⟩ :=
            ih _ (by omega) t (hforward.program.trans hp) rfl
          refine ⟨s :: met, u, .again hstep hreturns, ?_⟩
          rw [List.length_cons]
          omega

theorem run_returns_of_straight
    (hstraight : ∀ k statement, p.statement? k = some statement → statement.isStraight = true)
    (env : Env) (s : Script) (hp : s.walk.program = p) :
    ∃ met, Returns env s met (run env s) := by
  obtain ⟨met, u, hreturns, hlength⟩ := exists_returns_of_straight hstraight env s hp
  have hbound : p.lines.size ≤ (ticksLeft env s + jumpBound env.settings + 1) * p.lines.size :=
    Nat.le_mul_of_pos_left _ (Nat.succ_pos _)
  refine ⟨met, ?_⟩
  rw [hreturns.run_eq]
  · exact hreturns
  · rw [stepBound, hp]
    omega

end Script

/-! ## Texts -/

/-- The texts of the lines of a program. -/
def Program.texts (p : Program) : List String :=
  p.lines.toList.map Line.text

theorem Program.getElem?_texts (p : Program) (k : Nat) :
    p.texts[k]? = p.lines[k]?.map Line.text := by
  rw [texts, List.getElem?_map, Array.getElem?_toList]

theorem Program.statement?_eq_read? (p : Program) (k : Nat) :
    p.statement? k = p.texts[k]?.bind Statement.read? := by
  rw [getElem?_texts, statement?]
  cases p.lines[k]? with
  | none => rfl
  | some line => exact line.statement?_eq

/-- A line that starts with a hash is a comment. -/
theorem Statement.read?_of_hash {note : String} (h : note.toList.head? = some '#') :
    ∃ text, Statement.read? note = some (.comment text) := by
  obtain ⟨cs, hcs⟩ := List.head?_eq_some_iff.mp h
  have htrim : ∃ rest, trim ('#' :: cs) = '#' :: rest := by
    rw [trim, Statement.trimStart_eq_self (by rintro c hc; cases hc; decide), trimEnd_cons,
      if_neg fun hblank => absurd hblank.1 (by decide)]
    exact ⟨_, rfl⟩
  obtain ⟨rest, hrest⟩ := htrim
  refine ⟨String.ofList ('#' :: rest), ?_⟩
  rw [read?, readChars?, hcs, hrest]
  rfl

/-- Whether a comment between two lines parts an `else` from a brace.  An `else` on a line of its
own looks back at the brace above it.  One that starts with a brace closes its own block, but it is
also looked at from a brace above it, which closes an inner one. -/
def partsElse (before? after? : Option String) : Bool :=
  after?.any fun after =>
    (Statement.read? after).any Statement.isElse &&
      (after.toList.head? != some '\x7d' || before?.bind Statement.read? == some .rightBrace)

theorem closes_of_not_partsElse {before? : Option String} {after : String} {s : Statement}
    (h : partsElse before? (some after) = false) (hs : Statement.read? after = some s)
    (helse : s.isElse = true) :
    after.toList.head? = some '\x7d' ∧ before?.bind Statement.read? ≠ some .rightBrace := by
  rw [partsElse, Option.any_some, hs, Option.any_some, helse, Bool.true_and,
    Bool.or_eq_false_iff] at h
  exact ⟨by simpa using h.1, by simpa using h.2⟩

theorem Program.Commented.of_texts {p p' : Program} {front back : List String} {note : String}
    (htexts : p.texts = front ++ back) (htexts' : p'.texts = front ++ note :: back)
    (hnote : note.toList.head? = some '#')
    (hstraight : ∀ text ∈ front ++ back, (Statement.read? text).all Statement.isStraight = true)
    (hbrace : back.head?.bind Statement.read? ≠ some .leftBrace)
    (helse : partsElse front.getLast? back.head? = false) :
    p.Commented front.length p' := by
  have hback : p.texts[front.length]? = back.head? := by
    rw [htexts, List.getElem?_append_right (Nat.le_refl _), Nat.sub_self, List.head?_eq_getElem?]
  constructor
  case comment =>
    obtain ⟨text, htext⟩ := Statement.read?_of_hash hnote
    refine ⟨text, ?_⟩
    rw [statement?_eq_read?, htexts', List.getElem?_append_right (Nat.le_refl _), Nat.sub_self]
    exact htext
  case text =>
    intro k k' hk
    rw [← getElem?_texts, ← getElem?_texts, htexts, htexts']
    obtain ⟨hlt, rfl⟩ | ⟨hle, rfl⟩ := hk
    · rw [List.getElem?_append_left hlt, List.getElem?_append_left hlt]
    · rw [List.getElem?_append_right hle, List.getElem?_append_right (Nat.le_succ_of_le hle),
        Nat.succ_sub hle, List.getElem?_cons_succ]
  case isStraight =>
    intro k s hs
    rw [statement?_eq_read?] at hs
    obtain ⟨text, htext, hs⟩ := Option.bind_eq_some_iff.mp hs
    have hall := hstraight text (htexts ▸ List.mem_of_getElem? htext)
    rwa [hs, Option.all_some] at hall
  case brace =>
    rw [statement?_eq_read?, hback]
    exact hbrace
  case closes =>
    intro line s hline hs hisElse
    have htext : back.head? = some line.text := by
      rw [← hback, getElem?_texts, hline, Option.map_some]
    rw [line.statement?_eq] at hs
    rw [htext] at helse
    rw [Line.closesBlock, (closes_of_not_partsElse helse hs hisElse).1]
    rfl
  case behind =>
    intro k hk hs
    have hlast : front.getLast?.bind Statement.read? = some .rightBrace := by
      rw [← hs, statement?_eq_read?, htexts, List.getElem?_append_left (by omega),
        List.getLast?_eq_getElem?, ← hk, Nat.add_sub_cancel]
    by_contra hisElse
    obtain ⟨s, hs, hselse⟩ := Walk.exists_of_isElseAt (Bool.not_eq_false _ ▸ hisElse)
    rw [statement?_eq_read?, hback] at hs
    obtain ⟨after, hafter, hs⟩ := Option.bind_eq_some_iff.mp hs
    rw [hafter] at helse
    exact (closes_of_not_partsElse helse hs hselse).2 hlast

namespace Script

/-- What comes of starting a script without jumps. -/
theorem exists_starts_of_straight
    (hstraight : ∀ k statement, p.statement? k = some statement → statement.isStraight = true)
    (env : Env) (settings : Settings) (args : List String) :
    ∃ met fate, Starts env args (ofProgram p settings) met fate := by
  obtain ⟨met, hreturns⟩ :=
    run_returns_of_straight hstraight env ((ofProgram p settings).begun args) rfl
  obtain ⟨met', fate, hcomes⟩ := hreturns.exists_comes
  refine ⟨met', fate, hcomes, ?_⟩
  rintro t rfl
  rw [start_eq_run args rfl]
  exact (hreturns.unique hcomes.returns).2

/-- **Comments are inert unless they part an `else` from a brace.**  Put a comment between two lines
of a script that consists of plain lines and of conditionals with blocks, without jumps and waits,
but not between a conditional and the brace below it.  The script comes to its end with the comment
exactly when it does without it, and has then the same variables and has sent out the same; so it
has where it hangs in a line that never ends. -/
theorem comment_inert (p p' : Program) (front back : List String) (note : String)
    (htexts : p.texts = front ++ back) (htexts' : p'.texts = front ++ note :: back)
    (hname : p'.name = p.name) (hnote : note.toList.head? = some '#')
    (hstraight : ∀ text ∈ front ++ back, (Statement.read? text).all Statement.isStraight = true)
    (hbrace : back.head?.bind Statement.read? ≠ some .leftBrace)
    (helse : partsElse front.getLast? back.head? = false)
    (env : Env) (settings : Settings) (args : List String) :
    ∃ met fate met' fate', Starts env args (ofProgram p settings) met fate ∧
      Starts env args (ofProgram p' settings) met' fate' ∧
      fate'.isReturn = fate.isReturn ∧ fate'.view = fate.view := by
  have hc := Program.Commented.of_texts htexts htexts' hnote hstraight hbrace helse
  have hnear : Near front.length 0 0 := by
    unfold Near Abreast
    omega
  have hbeside : Beside front.length p p' ((ofProgram p settings).begun args)
      ((ofProgram p' settings).begun args) := by
    refine ⟨⟨rfl, rfl, hnear, .nil⟩, rfl, rfl, ?_, rfl⟩
    rw [(at_begun p settings args).view, (at_begun p' settings args).view, hname]
  obtain ⟨met, fate, hstarts⟩ :=
    exists_starts_of_straight (fun _ _ => hc.isStraight) env settings args
  obtain ⟨met', hreturns'⟩ := run_returns_of_straight (fun _ _ => hc.isStraight') env
    ((ofProgram p' settings).begun args) rfl
  obtain ⟨met'', fate', hcomes', hreturn, hview⟩ := hstarts.comes.beside hc hbeside
  refine ⟨met, fate, met'', fate', hstarts, ⟨hcomes', ?_⟩, hreturn, hview⟩
  rintro t rfl
  rw [start_eq_run args rfl]
  exact (hreturns'.unique hcomes'.returns).2

/-! ### A comment in front of an `else` -/

/-- The program of some lines. -/
def noting (texts : List String) : Program where
  name := "noting"
  lines := (texts.mapIdx fun i text => Line.ofText "noting" (i + 1) text).toArray

/-- A comment at the end of a branch is inert. -/
theorem comment_in_branch_inert :
    let front := ["if_1 \x7b", "echo a"]
    let back := ["\x7d", "else \x7b", "echo b", "\x7d"]
    (∀ text ∈ front ++ back, (Statement.read? text).all Statement.isStraight = true) ∧
      partsElse front.getLast? back.head? = false ∧
      ∃ met fate met' fate', Starts {} [] (ofProgram (noting (front ++ back)) {}) met fate ∧
        Starts {} [] (ofProgram (noting (front ++ "# note" :: back)) {}) met' fate' ∧
        fate'.isReturn = fate.isReturn ∧ fate'.view = fate.view := by
  intro front back
  have hstraight : ∀ text ∈ front ++ back,
      (Statement.read? text).all Statement.isStraight = true := by decide +kernel
  have helse : partsElse front.getLast? back.head? = false := by decide +kernel
  exact ⟨hstraight, helse, comment_inert (noting (front ++ back))
    (noting (front ++ "# note" :: back)) front back "# note" rfl rfl rfl (by decide) hstraight
    (by decide +kernel) helse {} {} []⟩

/-- **A comment in front of an `else` gives the `else` to the conditional around it.**  Without an
argument the script sends out nothing; with the comment it runs the inner `else` of a branch that
does not run. -/
theorem comment_before_else_sent :
    let front := ["if_1 \x7b", "if_1 \x7b", "echo a", "\x7d"]
    let back := ["else \x7b", "echo b", "\x7d", "\x7d"]
    (∀ text ∈ front ++ back, (Statement.read? text).all Statement.isStraight = true) ∧
      back.head?.bind Statement.read? ≠ some .leftBrace ∧
      (start {} [] (ofProgram (noting (front ++ back)) {})).view.sent = [] ∧
      (start {} [] (ofProgram (noting (front ++ "# note" :: back)) {})).view.sent.length = 1 := by
  decide +kernel

-- Behind an inner block that closes, a comment keeps an `else` from running that would run without
-- it: the conditional of the inner block is open no longer.
example :
    let front := ["if_0 \x7b", "if_1 \x7b", "echo a", "\x7d"]
    let back := ["\x7d else \x7b", "echo b", "\x7d"]
    (start {} [] (ofProgram (noting (front ++ back)) {})).view.sent.length = 1 ∧
      (start {} [] (ofProgram (noting (front ++ "# note" :: back)) {})).view.sent = [] := by
  decide +kernel

end Script

end StreamScript
