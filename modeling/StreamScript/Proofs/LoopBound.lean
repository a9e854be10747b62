import StreamScript.Proofs.Runs

/-!
# No script runs away

A call runs lines until the script waits or ends.  This module shows that it
does so after a number of lines that is known beforehand, from whatever state it
is made.

Two facts carry the bound.  A line that makes no jump leaves the script further
on than it was (`moved_execute`, `stepped_step`): a block that is passed over ends
behind its first line, and stopping in front of an `else` is still in front of
nothing that has run.  And every jump reads the clock and is seen by the loop guard,
which allows only so many of them once the clock stands still
(`LoopGuard.remaining`).  So the measure is the number of jumps left, times the number
of lines, plus the number of lines in front of the script.
-/

namespace StreamScript

/-! ## What the guard still allows -/

namespace LoopGuard

/-- The number of jumps that the guard lets pass at one instant. -/
def remaining (g : LoopGuard) (window limit now : Nat) : Nat :=
  match g.last? with
  | some t => if now - t < window then limit - g.count else limit
  | none => limit

theorem remaining_le (g : LoopGuard) (window limit now : Nat) :
    g.remaining window limit now ≤ limit := by
  unfold remaining
  split
  · split
    · exact Nat.sub_le limit g.count
    · exact Nat.le_refl limit
  · exact Nat.le_refl limit

theorem tripped_eq_false_iff {g : LoopGuard} {limit : Nat} :
    g.tripped limit = false ↔ g.count ≤ limit := by
  rw [tripped, decide_eq_false_iff_not, Nat.not_lt]

/-- A jump that the guard lets pass uses up one of those it allows.  Without a window the next jump
would not be in a row with this one, and nothing would be used up. -/
theorem remaining_record {g : LoopGuard} {window limit now : Nat} (hw : 0 < window)
    (h : (g.record window now).tripped limit = false) :
    (g.record window now).remaining window limit now + 1 = g.remaining window limit now := by
  have hafter : (g.record window now).remaining window limit now =
      limit - (g.record window now).count := if_pos (by rwa [Nat.sub_self])
  rw [tripped_eq_false_iff] at h
  rw [hafter]
  cases hlast : g.last? with
  | none =>
    have hcount : (g.record window now).count = 1 := by simp [record, hlast]
    rw [hcount] at h ⊢
    rw [remaining, hlast]
    dsimp only
    omega
  | some t =>
    rw [remaining, hlast]
    dsimp only
    by_cases hin : now - t < window
    · have hcount : (g.record window now).count = g.count + 1 := by simp [record, hlast, hin]
      rw [hcount] at h ⊢
      rw [if_pos hin]
      omega
    · have hcount : (g.record window now).count = 1 := by simp [record, hlast, hin]
      rw [hcount] at h ⊢
      rw [if_neg hin]
      omega

end LoopGuard

/-! ## Walks go forward -/

namespace Walk

theorem next_le_of_skipChain (w : Walk) :
    w.skipChain.2.program = w.program ∧ w.next ≤ w.skipChain.2.next := by
  fun_induction skipChain w with
  | case1 w => exact ⟨rfl, Nat.le_refl _⟩
  | case2 w => exact ⟨rfl, Nat.le_refl _⟩
  | case3 w s h helse hsingle ih => exact ⟨ih.1, Nat.le_of_succ_le ih.2⟩
  | case4 w s h helse hsingle inner hstop =>
    exact ⟨rfl, Nat.le_of_succ_le (le_next_skipBlock inner)⟩
  | case5 w s h helse hsingle inner stop hstop ih =>
    have hinner : w.next + 1 ≤ inner.skipBlock.2.next := le_next_skipBlock inner
    exact ⟨ih.1, Nat.le_trans (Nat.le_of_succ_le hinner) ih.2⟩

theorem next_le_skipWhile (p : Line → Bool) (w : Walk) : w.next ≤ (w.skipWhile p).next :=
  Nat.le_add_right _ _

end Walk

namespace Script

variable {env : Env} {s t u : Script}

/-! ## How far a line moves a script -/

/-- A script that is where it was, or further on. -/
structure Forward (s t : Script) : Prop where
  program : t.walk.program = s.walk.program
  guard : t.guard = s.guard
  readings : s.readings ≤ t.readings
  next : s.walk.next ≤ t.walk.next

/-- A script that has jumped: it has read the clock, and the guard has let it pass. -/
structure Jumped (env : Env) (s t : Script) : Prop where
  program : t.walk.program = s.walk.program
  counted : ∃ reading, s.readings ≤ reading ∧ reading < t.readings ∧
    t.guard = s.guard.record env.settings.loopWindow (env.clock reading)
  passed : t.guard.tripped env.settings.loopLimit = false

namespace Forward

theorem refl (s : Script) : Forward s s :=
  ⟨rfl, rfl, Nat.le_refl _, Nat.le_refl _⟩

theorem trans (h : Forward s t) (h' : Forward t u) : Forward s u where
  program := h'.program.trans h.program
  guard := h'.guard.trans h.guard
  readings := Nat.le_trans h.readings h'.readings
  next := Nat.le_trans h.next h'.next

theorem jumped (h : Forward s t) (h' : Jumped env t u) : Jumped env s u where
  program := h'.program.trans h.program
  counted := by
    obtain ⟨reading, hle, hlt, hguard⟩ := h'.counted
    exact ⟨reading, Nat.le_trans h.readings hle, hlt, by rw [hguard, h.guard]⟩
  passed := h'.passed

end Forward

theorem SameCourse.forward (h : SameCourse s t) : Forward s t where
  program := by rw [h.walk]
  guard := h.guard
  readings := h.readings
  next := Nat.le_of_eq (by rw [h.walk])

/-- Where a jump leads does not matter to the guard. -/
theorem Jumped.elsewhere (h : Jumped env s t) (hprogram : u.walk.program = t.walk.program)
    (hguard : u.guard = t.guard) (hreadings : t.readings ≤ u.readings) : Jumped env s u where
  program := hprogram.trans h.program
  counted := by
    obtain ⟨reading, hle, hlt, hcount⟩ := h.counted
    exact ⟨reading, hle, Nat.lt_of_lt_of_le hlt hreadings, hguard.trans hcount⟩
  passed := by rw [hguard]; exact h.passed

/-- Whether carrying out a statement makes a jump to a label that succeeds, or returns from a
subroutine.  Forgetting the open subroutines is not a jump. -/
def jumps (env : Env) : Statement → Script → Bool
  | .single head body, s =>
      match s.walk.index? with
      | none => false
      | some idx =>
          match enterSingle env head idx s with
          | (false, _) => false
          | (true, s) => jumps env body s
  | .goto label args, s => (goto env label (.text args) s).1 == .next
  | .gosub label args, s => !Text.sameName label "clear" && (gosub env label args s).1 == .next
  | .leave, s => (leave env s).1 == .next
  | _, _ => false

/-- What came of a statement: the script ends, has jumped, or is where it was or further on.  The
truth value tells whether it has jumped. -/
inductive Moved (env : Env) (s : Script) : Bool → Flow × Script → Prop where
  | exit (t : Script) : Moved env s false (.exit, t)
  | jumped {t : Script} (h : Jumped env s t) : Moved env s true (.next, t)
  | forward {t : Script} (flow : Flow) (h : Forward s t) : Moved env s false (flow, t)

theorem Moved.of_sameCourse {r : Flow × Script} (h : SameCourse s r.2) : Moved env s false r :=
  .forward r.1 h.forward

theorem Moved.of_forward (h : Forward s t) {jumped : Bool} {r : Flow × Script}
    (h' : Moved env t jumped r) : Moved env s jumped r := by
  cases h' with
  | exit u => exact .exit u
  | jumped hj => exact .jumped (h.jumped hj)
  | forward flow hf => exact .forward flow (h.trans hf)

/-! ### Jumps -/

theorem jumped_counted (h : (countJump env s).1 = false) : Jumped env s (s.counted env) :=
  ⟨rfl, ⟨s.readings, Nat.le_refl _, Nat.lt_succ_self _, rfl⟩, (fst_countJump env s).symm.trans h⟩

/-- Returning ends the script or jumps. -/
theorem moved_leave (env : Env) (s : Script) :
    Moved env s ((leave env s).1 == .next) (leave env s) := by
  have hresult := leaveResult env s
  generalize leave env s = r at hresult ⊢
  cases hresult with
  | unopened | tripped => exact .exit _
  | @back frame outer _ hcount =>
    have hpop : Forward s { s with gosubs := outer } := ⟨rfl, rfl, Nat.le_refl _, Nat.le_refl _⟩
    have hback := sameStand_returned frame (counted env { s with gosubs := outer })
    refine .jumped ((hpop.jumped (jumped_counted hcount)).elsewhere ?_ hback.guard
      hback.sameCourse.readings)
    rw [hback.walk]
    rfl

/-- Going to a label ends the script or jumps. -/
theorem moved_goto (env : Env) (label : String) (args : LabelArgs) (s : Script) :
    Moved env s ((goto env label args s).1 == .next) (goto env label args s) := by
  have hresult := gotoResult env label args s
  generalize goto env label args s = r at hresult ⊢
  cases hresult with
  | leaves => exact moved_leave env s
  | lost | tripped => exact .exit _
  | @lands target _ hcount =>
    have hland := sameStand_arrived env (s.labelName env label) target args (s.counted env)
    refine .jumped ((jumped_counted hcount).elsewhere ?_ hland.guard hland.sameCourse.readings)
    rw [hland.walk]
    rfl

/-- A call of a subroutine ends the script, jumps, or was no call at all. -/
theorem moved_gosub (env : Env) (label args : String) (s : Script) :
    Moved env s (!Text.sameName label "clear" && (gosub env label args s).1 == .next)
      (gosub env label args s) := by
  have hgoto := moved_goto env label (.text args) s
  have hresult := gosubResult env label args s
  generalize gosub env label args s = r at hresult ⊢
  cases hresult with
  | forgets hclear =>
    rw [hclear]
    exact .forward .next ⟨rfl, rfl, Nat.le_refl _, Nat.le_refl _⟩
  | full hclear =>
    rw [hclear]
    exact .exit _
  | opens hclear _ hnext =>
    rw [hclear]
    generalize goto env label (.text args) s = r at hgoto hnext ⊢
    obtain ⟨flow, t⟩ := r
    obtain rfl : flow = .next := hnext
    cases hgoto with
    | jumped hj => exact .jumped (hj.elsewhere rfl rfl (Nat.le_refl _))
  | fails hclear =>
    rw [hclear]
    exact hgoto

/-! ### Conditionals -/

theorem forward_openFrame (frame : Frame) (s : Script) : Forward s (s.openFrame frame) :=
  ⟨rfl, rfl, Nat.le_refl _, Nat.le_refl _⟩

theorem forward_replaceFrame (frame : Frame) (s : Script) : Forward s (s.replaceFrame frame) :=
  ⟨rfl, rfl, Nat.le_refl _, Nat.le_refl _⟩

theorem forward_decideHead (env : Env) (head : Head) (s : Script) :
    Forward s (s.decideHead env head).2 :=
  ((SameCourse.refl s).decideHead env head).forward

theorem forward_takeBrace (s : Script) : Forward s s.takeBrace.2 := by
  unfold takeBrace
  split
  · next hbrace =>
    have hlt := Walk.lt_size_of_nextStatement? hbrace
    refine ⟨rfl, rfl, Nat.le_refl _, ?_⟩
    change s.walk.next ≤ min (s.walk.next + 1) s.walk.program.lines.size
    omega
  · exact ((SameCourse.refl s).report _).forward

theorem forward_enterBlock (brace : BracePlace) (s : Script) :
    Forward s (s.enterBlock brace).2 := by
  cases brace with
  | here => exact .refl s
  | nextLine => exact forward_takeBrace s

theorem moved_openIf (env : Env) (head : Head) (brace : BracePlace) (idx : Nat) (s : Script) :
    Moved env s false (openIf env head brace idx s) := by
  unfold openIf
  dsimp only
  have hf := ((forward_decideHead env head s).trans (forward_openFrame
    ⟨idx, (s.decideHead env head).1⟩ _)).trans (forward_enterBlock brace _)
  split
  · exact .exit _
  · next t heq =>
    rw [heq] at hf
    exact .forward _ hf

theorem moved_openElse (env : Env) (head : Head) (brace : BracePlace) (idx : Nat) (s : Script) :
    Moved env s false (openElse env head brace idx s) := by
  unfold openElse
  have hf := forward_enterBlock brace s
  split
  · exact .exit _
  · next t heq =>
    rw [heq] at hf
    split
    · exact .forward _ (hf.trans (((SameCourse.refl t).report _).forward.trans
        (forward_openFrame _ _)))
    · split
      · exact .forward _ (hf.trans (forward_replaceFrame _ t))
      · exact .forward _ (hf.trans ((forward_decideHead env head t).trans
          (forward_replaceFrame _ _)))

theorem forward_enterSingle (env : Env) (head : Head) (idx : Nat) (s : Script) :
    Forward s (enterSingle env head idx s).2 := by
  have htest := forward_decideHead env head s
  cases head with
  | ifHolds condition => exact htest.trans (forward_openFrame ⟨idx, _⟩ _)
  | ifArgs count => exact htest.trans (forward_openFrame ⟨idx, _⟩ _)
  | elseIf | otherwise =>
    unfold enterSingle
    dsimp only
    split
    · exact ((SameCourse.refl s).report _).forward
    · split
      · exact forward_replaceFrame _ s
      · exact htest.trans (forward_replaceFrame _ _)

theorem forward_skipRivals (head : Head) (s : Script) : Forward s (s.skipRivals head) := by
  cases head with
  | ifArgs => exact ⟨rfl, rfl, Nat.le_refl _, Walk.next_le_skipWhile _ s.walk⟩
  | ifHolds | elseIf | otherwise =>
    exact ⟨rfl, rfl, Nat.le_refl _, Walk.next_le_skipWhile _ s.walk⟩

/-- What follows a one-line conditional may be passed over without harm. -/
theorem Moved.skipRivals {jumped : Bool} {r : Flow × Script} (h : Moved env s jumped r)
    (head : Head) (here : Prop) [Decidable here] :
    Moved env s jumped (r.1, if here then r.2.skipRivals head else r.2) := by
  have hskip := forward_skipRivals head r.2
  split
  · cases h with
    | exit t => exact .exit _
    | jumped hj => exact .jumped (hj.elsewhere hskip.program hskip.guard hskip.readings)
    | forward flow hf => exact .forward flow (hf.trans hskip)
  · exact h

theorem moved_closeBlock (env : Env) (s : Script) : Moved env s false s.closeBlock := by
  unfold closeBlock
  split
  · exact .exit _
  · exact .forward _ ⟨rfl, rfl, Nat.le_refl _, Nat.le_refl _⟩

/-! ### Statements -/

/-- **Every statement ends the script, jumps, or does not move it back.**  The body of a one-line
conditional is a statement of its own, which is what the induction is on. -/
theorem moved_execute (env : Env) (statement : Statement) (s : Script) :
    Moved env s (jumps env statement s) (execute env statement s) := by
  induction statement generalizing s with
  | single head body ih =>
    cases hidx : s.walk.index? with
    | none =>
      rw [jumps, execute, hidx]
      exact .exit s
    | some idx =>
      have henter := forward_enterSingle env head idx s
      rcases hr : enterSingle env head idx s with ⟨_ | _, t⟩
      · rw [jumps, hidx, execute_single_of_false hidx hr]
        dsimp only
        rw [hr] at henter ⊢
        exact .forward .next henter
      · rw [jumps, hidx, execute_single_of_true hidx hr]
        dsimp only
        rw [hr] at henter ⊢
        refine Moved.of_forward henter ?_
        exact (ih t).skipRivals head _
  | block head brace =>
    unfold execute
    split
    · exact .exit s
    · split
      · exact moved_openIf env _ brace _ s
      · exact moved_openIf env _ brace _ s
      · exact moved_openElse env _ brace _ s
      · exact moved_openElse env _ brace _ s
  | rightBrace => exact moved_closeBlock env s
  | goto label args => exact moved_goto env label (.text args) s
  | gosub label args => exact moved_gosub env label args s
  | leave => exact moved_leave env s
  | _ => exact .of_sameCourse (execute_sameCourse env (by rfl) s)

/-! ## How far a step moves a script -/

/-- Whether the line in front of a script makes a jump that succeeds. -/
def makesJump (env : Env) (s : Script) : Bool :=
  match s.nextLine? with
  | none => false
  | some line =>
      match line.statement? with
      | none => false
      | some statement => jumps env statement (s.atStatement line statement)

theorem forward_ite {c : Prop} [Decidable c] (h : Forward s t) (h' : Forward s u) :
    Forward s (if c then t else u) := by
  split
  · exact h
  · exact h'

theorem forward_closeSingle (line : Line) (statement : Statement) (s : Script) :
    Forward s (s.closeSingle line statement) := by
  unfold closeSingle
  split
  · exact .refl s
  · exact forward_ite ⟨rfl, rfl, Nat.le_refl _, Nat.le_refl _⟩ (.refl s)

theorem moved_runLine (env : Env) {line : Line} (h : s.nextLine? = some line) :
    Moved env s.behindLine (makesJump env s) (runLine env s.behindLine) := by
  have hremember := ((SameCourse.refl s.behindLine).remember line)
  cases hs : line.statement? with
  | none =>
    rw [makesJump, h, runLine_of_no_statement env h hs]
    dsimp only
    rw [hs]
    exact .forward .next (hremember.report _).forward
  | some statement =>
    rw [makesJump, h, runLine_of_statement env h hs]
    dsimp only
    rw [hs]
    exact (moved_execute env statement _).of_forward
      (hremember.forward.trans (forward_closeSingle line statement _))

theorem forward_skipBlock (s : Script) : Forward s s.skipBlock.2 := by
  have hnext := Walk.le_next_skipBlock s.walk
  have hprogram := Walk.program_skipBlock s.walk
  unfold skipBlock
  split
  · next walk heq =>
    rw [heq] at hnext hprogram
    exact ⟨hprogram, rfl, Nat.le_refl _, hnext⟩
  · next walk heq =>
    rw [heq] at hnext hprogram
    exact ⟨hprogram, rfl, Nat.le_refl _, hnext⟩
  · next walk heq =>
    rw [heq] at hnext hprogram
    have hpop (c : Bool) : (if c then walk else walk.pop).program = walk.program ∧
        (if c then walk else walk.pop).next = walk.next := by
      cases c <;> exact ⟨rfl, rfl⟩
    exact ⟨(hpop _).1.trans hprogram, rfl, Nat.le_refl _,
      Nat.le_trans hnext (Nat.le_of_eq (hpop _).2.symm)⟩

theorem forward_skipChain (s : Script) : Forward s s.skipChain.2 :=
  ⟨s.walk.next_le_of_skipChain.1, rfl, Nat.le_refl _, s.walk.next_le_of_skipChain.2⟩

/-- What came of a step: nothing is left to do, or the script runs on behind a jump, or further on
than it was.  The truth value tells whether it has jumped. -/
inductive Stepped (env : Env) (s : Script) : Bool → Step → Prop where
  | done (t : Script) : Stepped env s false (.done t)
  | jumped {t : Script} (h : Jumped env s t) : Stepped env s true (.again t)
  | forward {t : Script} (h : Forward s t) : Stepped env s false (.again t)

theorem stepped_ofSkip {r : Bool × Script} (h : Forward s r.2) :
    Stepped env s false (ofSkip r) := by
  obtain ⟨_ | _, t⟩ := r
  · exact .done _
  · exact .forward h

theorem stepped_proceed {jumped : Bool} {r : Flow × Script} (h : Moved env s jumped r) :
    Stepped env s jumped (proceed r) := by
  cases h with
  | exit t => exact .done _
  | jumped hj => exact .jumped hj
  | forward flow hf =>
    cases flow with
    | next => exact .forward hf
    | wait | exit => exact .done _
    | skipBlock => exact stepped_ofSkip (hf.trans (forward_skipBlock _))
    | skipChain => exact stepped_ofSkip (hf.trans (forward_skipChain _))

/-- A step from a line that is there leads, if anywhere, behind a jump or behind that line. -/
theorem stepped_step (env : Env) {line : Line} (h : s.nextLine? = some line) :
    Stepped env s.behindLine (makesJump env s) (step env s) := by
  rw [step_of_nextLine? env h]
  exact stepped_proceed (moved_runLine env h)

/-! ## The bound -/

/-- The number of jumps that can still be made.  As long as the clock goes on, a jump need not be in
a row with the one before, but it takes a reading; behind them the guard counts. -/
def jumpsLeft (env : Env) (s : Script) : Nat :=
  if ticksLeft env s = 0 then
    s.guard.remaining env.settings.loopWindow env.settings.loopLimit env.now
  else ticksLeft env s + env.settings.loopLimit

/-- The number of lines that can still run: those in front of the script, and all lines once more
for every jump. -/
def linesLeft (env : Env) (s : Script) : Nat :=
  jumpsLeft env s * s.walk.program.lines.size + (s.walk.program.lines.size - s.walk.next)

/-- The number of lines run in the states that a call has met. -/
def linesRun (met : List Script) : Nat :=
  met.countP fun s => s.nextLine?.isSome

/-- The number of jumps made in the states that a call has met. -/
def jumpsMade (env : Env) (met : List Script) : Nat :=
  met.countP (makesJump env)

theorem jumpsLeft_le (env : Env) (s : Script) :
    jumpsLeft env s ≤ ticksLeft env s + env.settings.loopLimit := by
  rw [jumpsLeft]
  split
  · exact Nat.le_trans (s.guard.remaining_le _ _ _) (Nat.le_add_left _ _)
  · exact Nat.le_refl _

theorem linesLeft_le (env : Env) (s : Script) : linesLeft env s ≤
    (ticksLeft env s + env.settings.loopLimit + 1) * s.walk.program.lines.size := by
  have hjumps := Nat.mul_le_mul_right s.walk.program.lines.size (jumpsLeft_le env s)
  rw [linesLeft, Nat.succ_mul]
  omega

theorem clock_of_ticksLeft_eq_zero {reading : Nat} (h : ticksLeft env s = 0)
    (hle : s.readings ≤ reading) : env.clock reading = env.now :=
  List.getD_eq_getElem?_getD.trans
    (by rw [List.getElem?_eq_none (Nat.le_trans (Nat.sub_eq_zero_iff_le.mp h) hle)]; rfl)

theorem jumpsLeft_behindLine (env : Env) (s : Script) :
    jumpsLeft env s.behindLine = jumpsLeft env s :=
  rfl

/-- Without a jump there are no more of them left than before. -/
theorem Forward.jumpsLeft_le (h : Forward s t) (env : Env) : jumpsLeft env t ≤ jumpsLeft env s := by
  have hticks : ticksLeft env t ≤ ticksLeft env s := Nat.sub_le_sub_left h.readings _
  have hguard := s.guard.remaining_le env.settings.loopWindow env.settings.loopLimit env.now
  rw [jumpsLeft, jumpsLeft, h.guard]
  split <;> split <;> omega

/-- A jump uses up one of those that are left. -/
theorem Jumped.jumpsLeft_lt (hw : 0 < env.settings.loopWindow) (h : Jumped env s t) :
    jumpsLeft env t + 1 ≤ jumpsLeft env s := by
  obtain ⟨reading, hle, hlt, hguard⟩ := h.counted
  have hticks : ticksLeft env t ≤ ticksLeft env s - 1 := by
    rw [ticksLeft, ticksLeft]
    omega
  rw [jumpsLeft.eq_def env s]
  split
  · next hstill =>
    -- the clock stood still before, so the guard has seen two jumps at one instant
    have hpassed := h.passed
    rw [hguard, clock_of_ticksLeft_eq_zero hstill hle] at hpassed
    have hremaining := LoopGuard.remaining_record hw hpassed
    rw [jumpsLeft, if_pos (by omega), hguard, clock_of_ticksLeft_eq_zero hstill hle]
    exact Nat.le_of_eq hremaining
  · have hbound := Script.jumpsLeft_le env t
    omega

theorem linesRun_cons {line : Line} (h : s.nextLine? = some line) (met : List Script) :
    linesRun (s :: met) = linesRun met + 1 :=
  List.countP_cons_of_pos (by rw [h]; rfl)

theorem jumpsMade_cons (env : Env) (s : Script) (met : List Script) :
    jumpsMade env (s :: met) = jumpsMade env met + (makesJump env s).toNat := by
  rw [jumpsMade, jumpsMade, List.countP_cons]
  cases makesJump env s <;> rfl

theorem linesLeft_pos {line : Line} (h : s.nextLine? = some line) : 0 < linesLeft env s := by
  have hlt := next_lt_size h
  rw [linesLeft]
  omega

theorem makesJump_eq_false_of_done {line : Line} (hline : s.nextLine? = some line)
    (h : step env s = .done t) : makesJump env s = false := by
  have hstep := stepped_step env hline
  rw [h] at hstep
  generalize makesJump env s = jumped at hstep
  cases hstep
  rfl

/-- A line uses up a jump if it makes one, and in any case some of the lines that are left. -/
theorem left_of_again (hw : 0 < env.settings.loopWindow) {line : Line}
    (hline : s.nextLine? = some line) (h : step env s = .again t) :
    jumpsLeft env t + (makesJump env s).toNat ≤ jumpsLeft env s ∧
      linesLeft env t < linesLeft env s := by
  have hlt := next_lt_size hline
  have hstep := stepped_step env hline
  rw [h] at hstep
  generalize makesJump env s = jumped at hstep
  cases hstep with
  | jumped hjump =>
    have hprogram : t.walk.program = s.walk.program := hjump.program
    have hjumps : jumpsLeft env t + 1 ≤ jumpsLeft env s.behindLine := hjump.jumpsLeft_lt hw
    rw [jumpsLeft_behindLine] at hjumps
    have hlines := Nat.mul_le_mul_right s.walk.program.lines.size hjumps
    refine ⟨hjumps, ?_⟩
    rw [Nat.succ_mul] at hlines
    rw [linesLeft, linesLeft, hprogram]
    omega
  | forward hforward =>
    have hprogram : t.walk.program = s.walk.program := hforward.program
    have hnext : s.walk.next + 1 ≤ t.walk.next := hforward.next
    have hreadings : s.readings ≤ t.readings := hforward.readings
    have hjumps : jumpsLeft env t ≤ jumpsLeft env s :=
      Forward.jumpsLeft_le (s := s) ⟨hprogram, hforward.guard, hreadings, by omega⟩ env
    have hlines := Nat.mul_le_mul_right s.walk.program.lines.size hjumps
    refine ⟨hjumps, ?_⟩
    rw [linesLeft, linesLeft, hprogram]
    omega

/-- A call comes back before it has used up what is left.  The induction is on the number of lines
that can still run, which a line uses up whether it jumps or not. -/
theorem exists_returns (hw : 0 < env.settings.loopWindow) (s : Script) :
    ∃ met t, Returns env s met t ∧ met.length ≤ linesRun met + 1 ∧
      linesRun met ≤ linesLeft env s ∧ jumpsMade env met ≤ jumpsLeft env s := by
  induction hm : linesLeft env s using Nat.strongRecOn generalizing s with
  | ind m ih =>
    subst hm
    cases hline : s.nextLine? with
    | none =>
      obtain ⟨t, ht⟩ := step_of_nextLine?_eq_none env hline
      refine ⟨[s], t, .done ht, Nat.le_add_left _ _, ?_, ?_⟩
      · simp [linesRun, hline]
      · simp [jumpsMade, makesJump, hline]
    | some line =>
      cases hstep : step env s with
      | done t =>
        refine ⟨[s], t, .done hstep, Nat.le_add_left _ _, ?_, ?_⟩
        · rw [linesRun_cons hline]
          exact linesLeft_pos hline
        · rw [jumpsMade_cons, makesJump_eq_false_of_done hline hstep]
          exact Nat.zero_le _
      | again t =>
        obtain ⟨hjumps, hlines⟩ := left_of_again hw hline hstep
        obtain ⟨met, u, hreturns, hlength, hl, hn⟩ := ih _ hlines t rfl
        refine ⟨s :: met, u, .again hstep hreturns, ?_, ?_, ?_⟩
        · rw [linesRun_cons hline, List.length_cons]
          exact Nat.succ_le_succ hlength
        · rw [linesRun_cons hline]
          exact Nat.lt_of_le_of_lt hl hlines
        · rw [jumpsMade_cons]
          exact Nat.le_trans (Nat.add_le_add_right hn _) hjumps

/-- With a window every call comes back, whatever the clock shows before it stands still.  What it
returns is what `run` computes. -/
theorem run_returns (env : Env) (hw : 0 < env.settings.loopWindow) (s : Script) :
    ∃ met, Returns env s met (run env s) ∧
      linesRun met ≤
        (ticksLeft env s + env.settings.loopLimit + 1) * s.walk.program.lines.size ∧
      jumpsMade env met ≤ ticksLeft env s + env.settings.loopLimit := by
  obtain ⟨met, t, hreturns, hlength, hlines, hjumps⟩ := exists_returns hw s
  have hbound := Nat.le_trans hlines (linesLeft_le env s)
  have hrun : run env s = t := by
    refine hreturns.run_eq (Nat.le_trans hlength ?_)
    rw [stepBound, jumpBound, if_neg (Nat.ne_of_gt hw)]
    exact Nat.succ_le_succ hbound
  rw [hrun]
  exact ⟨met, hreturns, hbound, Nat.le_trans hjumps (jumpsLeft_le env s)⟩

/-- **No script runs away.**  From every state, with a window and while the clock stands still, a
call comes back.  It has then run at most all lines once, and once more for every jump that the
limit allows, and has made no more jumps than that; and what it returns is what `run` computes. -/
theorem run_returns_within_limit (env : Env) (hw : 0 < env.settings.loopWindow) (s : Script)
    (hstill : ticksLeft env s = 0) :
    ∃ met, Returns env s met (run env s) ∧
      linesRun met ≤ (env.settings.loopLimit + 1) * s.walk.program.lines.size ∧
      jumpsMade env met ≤ env.settings.loopLimit := by
  have hreturns := run_returns env hw s
  rwa [hstill, Nat.zero_add] at hreturns

/-- A script that goes round for ever, in front of its first line. -/
def circling : Script where
  walk := { program := {
    name := "circling"
    lines := #[⟨"top:", "circling", 1, _, rfl⟩, ⟨"goto top", "circling", 2, _, rfl⟩] } }
  scopes := .ofName "circling"
  phase := .running

/-- With the settings that scripts have unless they are given others, a script that goes round for
ever is stopped after a thousand lines. -/
theorem run_circling_within_limit :
    0 < ({} : Env).settings.loopWindow ∧ ticksLeft {} circling = 0 ∧
      ∃ met, Returns {} circling met (run {} circling) ∧
        linesRun met ≤ 1002 ∧ jumpsMade {} met ≤ 500 :=
  ⟨by decide, rfl, run_returns_within_limit {} (by decide) circling rfl⟩

end Script

end StreamScript
