import StreamScript.Proofs.Events.Calls
import StreamScript.Proofs.Events.Heeding

/-!
# What can wake a suspended script

A script that is running between two calls has to wait for something, or nothing
will ever make it go on; and one that is paused has to wait for something, or to be
marked to run on (`Wakeable`).  This module shows when that is so.

Three things can happen to what a script waits for when a statement is carried out
(`Waits`): it stays as it was, something is armed and the script is told to wait, or
the statement goes to a label, whereby everything is given up (`abandons`).  In the
last case the script has to run on.  A run does, and it rests only where something
is armed (`wakeable_of_returns`).  Actions do not: that one of their commands was a
jump is seen from its form, and a jump from within a conditional does not have that
form.  So a line strands a script when its last command to give everything up is
such a jump, no later one waits, and none makes the script end or run on
(`Strands`).

Nothing else does: `always_wakeable_iff`.
-/

namespace StreamScript

open Text

namespace Script

variable {env : Env} {s t u : Script}

/-! ## What a statement does to waits -/

/-- Where a jump leads, if its label is known. -/
def destination? (env : Env) (label : String) (s : Script) : Option Label :=
  s.walk.program.label? (String.ofList (lowercase (trim (s.substitute env label).toList)))

/-- Whether carrying out a statement goes to a label, whereby every wait is given up.  To return
from a subroutine gives up none. -/
def abandons (env : Env) : Statement → Script → Bool
  | .single head body, s =>
      match s.walk.index? with
      | none => false
      | some idx =>
          match enterSingle env head idx s with
          | (false, _) => false
          | (true, s) => abandons env body s
  | .goto label args, s =>
      (destination? env label s).isSome && (goto env label (.text args) s).1 == .next
  | .gosub label args, s =>
      !sameName label "clear" && (destination? env label s).isSome
        && (gosub env label args s).1 == .next
  | _, _ => false

/-- What came of a statement: something is armed and the script waits, everything is given up and
it runs on, or what it waits for is what it waited for.  The truth value tells whether everything is
given up. -/
inductive Waits (s : Script) : Bool → Flow × Script → Prop where
  | kept {r : Flow × Script} (hflow : r.1 ≠ .wait) (h : r.2.isWaiting = s.isWaiting) :
      Waits s false r
  | armed {r : Flow × Script} (hflow : r.1 = .wait) (h : r.2.isWaiting = true) : Waits s false r
  | abandoned {r : Flow × Script} (hflow : r.1 = .next) (h : r.2.isWaiting = false) :
      Waits s true r

namespace Waits

/-- What a statement does to waits does not depend on what came before. -/
theorem of_isWaiting_eq {given : Bool} {r : Flow × Script} (h : Waits t given r)
    (hs : t.isWaiting = s.isWaiting) : Waits s given r := by
  cases h with
  | kept hflow h => exact .kept hflow (h.trans hs)
  | armed hflow h => exact .armed hflow h
  | abandoned hflow h => exact .abandoned hflow h

/-- Nor on what comes behind. -/
theorem behind {given : Bool} {r : Flow × Script} (h : Waits s given r)
    (ht : t.isWaiting = r.2.isWaiting) : Waits s given (r.1, t) := by
  cases h with
  | kept hflow h => exact .kept hflow (ht.trans h)
  | armed hflow h => exact .armed hflow (ht.trans h)
  | abandoned hflow h => exact .abandoned hflow (ht.trans h)

end Waits

/-! ### Jumps -/

theorem isWaiting_countJump (env : Env) (s : Script) :
    (countJump env s).2.isWaiting = s.isWaiting :=
  (sameStand_countJump env s).isWaiting

theorem waits_leave (env : Env) (s : Script) : Waits s false (leave env s) := by
  have hresult := leaveResult env s
  generalize leave env s = r at hresult ⊢
  cases hresult with
  | unopened => exact .kept nofun (s.sameStand_report _).isWaiting
  | tripped => exact .kept nofun (isWaiting_countJump env _)
  | back => exact .kept nofun (sameStand_returned _ _).isWaiting

theorem waits_goto (env : Env) (label : String) (args : LabelArgs) (s : Script) :
    Waits s ((destination? env label s).isSome && (goto env label args s).1 == .next)
      (goto env label args s) := by
  have hdestination : destination? env label s =
      s.walk.program.label? (s.labelName env label) := rfl
  have hresult := gotoResult env label args s
  generalize goto env label args s = r at hresult ⊢
  rw [hdestination]
  cases hresult with
  | leaves hnone =>
    rw [hnone]
    exact waits_leave env s
  | lost hnone =>
    rw [hnone]
    exact .kept nofun (s.sameStand_report _).isWaiting
  | tripped hsome =>
    rw [hsome]
    exact .kept nofun (isWaiting_countJump env s)
  | lands hsome =>
    rw [hsome]
    exact .abandoned rfl (sameStand_arrived ..).isWaiting

theorem waits_gosub (env : Env) (label args : String) (s : Script) :
    Waits s (!sameName label "clear" && (destination? env label s).isSome
      && (gosub env label args s).1 == .next) (gosub env label args s) := by
  have hgoto := waits_goto env label (.text args) s
  have hresult := gosubResult env label args s
  generalize gosub env label args s = r at hresult ⊢
  cases hresult with
  | forgets hclear =>
    rw [hclear]
    exact .kept nofun rfl
  | full =>
    rw [show ((Flow.exit == Flow.next) = false) from rfl, Bool.and_false]
    exact .kept nofun (s.sameStand_report _).isWaiting
  | opens hclear _ hnext =>
    rw [hclear, Bool.not_false, Bool.true_and]
    rw [hnext] at hgoto
    have hbehind := hgoto.behind (t := { (goto env label (.text args) s).2 with
      gosubs := s.hereFrame :: (goto env label (.text args) s).2.gosubs }) rfl
    rw [hnext] at hbehind
    exact hbehind
  | fails hclear =>
    rw [hclear, Bool.not_false, Bool.true_and]
    exact hgoto

/-! ### Conditionals -/

theorem waits_openIf (env : Env) (head : Head) (brace : BracePlace) (idx : Nat) (s : Script) :
    Waits s false (openIf env head brace idx s) := by
  refine .kept ?_ (SameButPlace.openIf env head brace idx s).isWaiting
  unfold openIf
  dsimp only
  split
  · exact nofun
  · dsimp only
    split <;> exact nofun

theorem waits_openElse (env : Env) (head : Head) (brace : BracePlace) (idx : Nat) (s : Script) :
    Waits s false (openElse env head brace idx s) := by
  refine .kept ?_ (SameButPlace.openElse env head brace idx s).isWaiting
  unfold openElse
  split
  · exact nofun
  · split
    · exact nofun
    · split
      · exact nofun
      · dsimp only
        split <;> exact nofun

theorem waits_closeBlock (s : Script) : Waits s false s.closeBlock := by
  refine .kept ?_ (SameButPlace.closeBlock s).isWaiting
  unfold closeBlock
  split
  · exact nofun
  · dsimp only
    split <;> exact nofun

theorem waits_block (env : Env) (head : Head) (brace : BracePlace) (s : Script) :
    Waits s false (execute env (.block head brace) s) := by
  rw [execute]
  split
  · exact .kept (by simp) rfl
  · next idx _ =>
    cases head with
    | ifHolds | ifArgs => exact waits_openIf env _ brace idx s
    | elseIf | otherwise => exact waits_openElse env _ brace idx s

theorem waits_single {head : Head} {body : Statement}
    (ih : ∀ s, Waits s (abandons env body s) (execute env body s)) (s : Script) :
    Waits s (abandons env (.single head body) s) (execute env (.single head body) s) := by
  cases hidx : s.walk.index? with
  | none =>
    rw [abandons, execute, hidx]
    exact .kept (by simp) rfl
  | some idx =>
    have henter := (SameButPlace.enterSingle env head idx s).isWaiting
    rcases hr : enterSingle env head idx s with ⟨_ | _, t⟩
    · rw [abandons, hidx, execute_single_of_false hidx hr]
      dsimp only
      rw [hr] at henter ⊢
      exact .kept (by simp) henter
    · rw [abandons, hidx, execute_single_of_true hidx hr]
      dsimp only
      rw [hr] at henter ⊢
      refine Waits.behind ((ih t).of_isWaiting_eq henter) ?_
      split
      · exact (SameButPlace.skipRivals head _).isWaiting
      · rfl

/-! ### Statements -/

theorem waits_await (wait : Wait) (s t : Script) : Waits s false (t.await wait) :=
  .armed rfl rfl

theorem waits_of_isAside {statement : Statement} (h : statement.isAside = true) (s : Script) :
    Waits s false (execute env statement s) := by
  obtain ⟨hnext, hsame⟩ := s.execute_sameStand env h
  exact .kept (by rw [hnext]; exact nofun) hsame.isWaiting

/-- **Every statement keeps what is waited for, arms something, or gives everything up.**  The body
of a one-line conditional is a statement of its own, which is what the induction is on. -/
theorem waits_execute (env : Env) (statement : Statement) (s : Script) :
    Waits s (abandons env statement s) (execute env statement s) := by
  induction statement generalizing s with
  | single head body ih => exact waits_single ih s
  | block head brace => exact waits_block env head brace s
  | rightBrace => exact waits_closeBlock s
  | goto label args => exact waits_goto env label (.text args) s
  | gosub label args => exact waits_gosub env label args s
  | leave => exact waits_leave env s
  | exit => exact .kept nofun rfl
  | nextRoom | move | waitFor | waitForRegex | waitPrompt | waitEval => exact waits_await _ s _
  | pause seconds => exact .armed rfl (Bool.or_true _)
  | matchText | matchRegex => exact .kept nofun rfl
  | matchWait timeout => exact .armed rfl rfl
  | _ => exact waits_of_isAside (by rfl) s

/-! ## Runs rest only where something is armed -/

/-- A script that something can wake: while it is running it waits, and while it is paused it waits
or is marked to run on. -/
structure Wakeable (s : Script) : Prop where
  running : s.phase = .running → s.isWaiting = true
  paused : s.phase = .paused → s.isWaiting = true ∨ s.resumePending = true

namespace Wakeable

theorem of_isWaiting (h : s.isWaiting = true) : Wakeable s :=
  ⟨fun _ => h, fun _ => .inl h⟩

theorem of_notStarted (h : s.phase = .notStarted) : Wakeable s := by
  constructor <;> (rw [h]; exact nofun)

theorem of_stopped (h : s.phase = .stopped) : Wakeable s := by
  constructor <;> (rw [h]; exact nofun)

theorem of_resumePending (hphase : s.phase = .paused) (h : s.resumePending = true) :
    Wakeable s := by
  constructor
  · rw [hphase]; exact nofun
  · exact fun _ => .inr h

/-- Whether something can wake a script depends on no more than where it stands. -/
theorem of_sameStand (h : Wakeable s) (hsame : SameStand s t) : Wakeable t := by
  constructor
  · rw [hsame.phase, hsame.isWaiting]
    exact h.running
  · rw [hsame.phase, hsame.isWaiting, hsame.resumePending]
    exact h.paused

end Wakeable

theorem wakeable_cancel (s : Script) : Wakeable s.cancel :=
  .of_stopped s.phase_of_cancel

theorem waits_runLine (env : Env) (s : Script) : ∃ given, Waits s given (runLine env s) := by
  unfold runLine
  split
  · exact ⟨false, .kept nofun rfl⟩
  · next line _ =>
    have hremember := (s.sameStand_remember line).isWaiting
    dsimp only
    split
    · exact ⟨false, .kept nofun (((s.remember line).sameStand_report _).isWaiting.trans hremember)⟩
    · next statement _ =>
      have hclose := (SameButPlace.closeSingle line statement (s.remember line)).isWaiting
      exact ⟨_, (waits_execute env statement _).of_isWaiting_eq (hclose.trans hremember)⟩

theorem wakeable_of_ofSkip {r : Bool × Script} (h : ofSkip r = .done t) : Wakeable t := by
  obtain ⟨closed, u⟩ := r
  cases closed with
  | true => cases h
  | false =>
    cases h
    exact wakeable_cancel _

/-- Where a line lets a script rest, something is armed. -/
theorem wakeable_of_proceed {given : Bool} {r : Flow × Script} (hr : Waits s given r)
    (h : proceed r = .done t) : Wakeable t := by
  obtain ⟨flow, u⟩ := r
  cases flow with
  | next => cases h
  | wait =>
    cases h
    cases hr with
    | kept hflow => exact absurd rfl hflow
    | armed _ harmed => exact .of_isWaiting harmed
    | abandoned hflow => cases hflow
  | exit =>
    cases h
    exact wakeable_cancel u
  | skipBlock => exact wakeable_of_ofSkip h
  | skipChain => exact wakeable_of_ofSkip h

theorem wakeable_of_step (h : step env s = .done t) : Wakeable t := by
  unfold step at h
  split at h
  · next hphase =>
    cases h
    exact .of_notStarted hphase
  · next hphase =>
    cases h
    exact .of_stopped hphase
  · next hphase =>
    cases h
    exact .of_resumePending hphase rfl
  · split at h
    · cases h
      exact wakeable_cancel s
    · next walk _ =>
      obtain ⟨given, hwaits⟩ := waits_runLine env { s with walk := walk }
      exact wakeable_of_proceed hwaits h

/-- **A run rests only where something can wake the script**, from whatever state it starts. -/
theorem wakeable_of_returns {met : List Script} (h : Returns env s met t) : Wakeable t := by
  induction h with
  | done hstep => exact wakeable_of_step hstep
  | again _ _ ih => exact ih

end Script

/-! ## What the orders of a line leave armed -/

namespace Order

/-- Whether a command goes to a label, whereby every wait is given up. -/
def abandons (env : Env) (o : Order) : Bool :=
  o.statement?.any fun statement => Script.abandons env statement (o.script.setVerbatim true)

theorem waits (env : Env) (o : Order) : Script.Waits o.script (o.abandons env) (o.outcome env) := by
  rw [abandons, outcome]
  cases o.statement? with
  | none => exact .kept nofun (o.script.sameStand_report _).isWaiting
  | some statement =>
    have hexecute := Script.waits_execute env statement (o.script.setVerbatim true)
    exact (hexecute.of_isWaiting_eq (o.script.sameStand_setVerbatim true).isWaiting).behind
      (Script.sameStand_setVerbatim _ false).isWaiting

/-- No command changes the phase. -/
theorem phase_outcome (env : Env) (o : Order) : (o.outcome env).2.phase = o.script.phase := by
  rw [outcome]
  cases o.statement? with
  | none => exact (o.script.sameStand_report _).phase
  | some statement => exact Script.phase_execute env statement (o.script.setVerbatim true)

/-- A command that gives everything up, and after which the script stays, is a conditional with a
jump in it. -/
theorem exists_single_of_abandons {o : Order} (h : o.abandons env = true)
    (hstay : o.reaction env = .stayed) :
    ∃ head body, o.statement? = some (.single head body) := by
  obtain ⟨statement, hstatement, habandons⟩ := (Option.any_eq_true ..).mp h
  have hnext : (o.outcome env).1 = .next := by
    have hwaits := o.waits env
    rw [h] at hwaits
    cases hwaits with
    | abandoned hflow => exact hflow
  cases statement with
  | single head body => exact ⟨head, body, hstatement⟩
  | goto | gosub =>
    rw [reaction, hnext, hstatement] at hstay
    cases hstay
  | _ => cases habandons

end Order

namespace Script

variable {env : Env} {line : String} {s t : Script} {orders : List Order}

/-- Whether orders leave nothing armed: one of them gives everything up, and none behind it
waits. -/
def LeaveUnarmed (env : Env) (orders : List Order) : Prop :=
  ∃ front o back, orders = front ++ o :: back ∧ o.abandons env = true ∧
    ∀ o' ∈ back, (o'.outcome env).1 ≠ .wait

theorem leaveUnarmed_cons {o : Order} :
    LeaveUnarmed env (o :: orders) ↔
      (o.abandons env = true ∧ ∀ o' ∈ orders, (o'.outcome env).1 ≠ .wait) ∨
        LeaveUnarmed env orders := by
  constructor
  · rintro ⟨front, o', back, heq, habandons, hback⟩
    obtain ⟨rfl, hcons⟩ | ⟨front, rfl, rfl⟩ := List.cons_eq_append_iff.mp heq
    · obtain ⟨rfl, rfl⟩ := List.cons.inj hcons
      exact .inl ⟨habandons, hback⟩
    · exact .inr ⟨front, o', back, rfl, habandons, hback⟩
  · rintro (⟨habandons, hback⟩ | ⟨front, o', back, rfl, habandons, hback⟩)
    · exact ⟨[], o, orders, rfl, habandons, hback⟩
    · exact ⟨o :: front, o', back, rfl, habandons, hback⟩

/-- **What orders leave armed.**  Nothing is armed behind them exactly when nothing was and none of
them waits, or when one gives everything up and none behind it waits. -/
theorem Carries.isWaiting_eq_false_iff (h : Carries env s orders t) :
    t.isWaiting = false ↔
      (s.isWaiting = false ∧ ∀ o ∈ orders, (o.outcome env).1 ≠ .wait) ∨
        LeaveUnarmed env orders := by
  induction h with
  | nil s => simp [LeaveUnarmed]
  | note hsame _ ih => rw [ih, hsame.isWaiting]
  | @cons o _ orders _ ih =>
    have hwaits := o.waits env
    rw [ih, leaveUnarmed_cons, List.forall_mem_cons]
    generalize o.abandons env = given at hwaits ⊢
    cases hwaits with
    | kept hflow hkept => simp [hflow, hkept]
    | armed hflow harmed => simp [hflow, harmed]
    | abandoned hflow hgone => simp only [hflow, hgone]; grind

theorem phase_react (env : Env) (line : String) (s : Script) :
    (s.react env line).2.phase = s.phase :=
  (carries_react env line s).related SameStand.phase (fun h h' => h'.trans h)
    fun o _ => o.phase_outcome env

/-- Whether a line strands a running script: none of its orders makes the script end or run on, and
they leave nothing armed. -/
structure Strands (env : Env) (line : String) (s : Script) : Prop where
  running : s.phase = .running
  stayed : ∀ o ∈ s.orders env line, o.reaction env = .stayed
  unarmed : LeaveUnarmed env (s.orders env line)

/-- What strands a script is a jump from within a conditional. -/
theorem Strands.exists_single (h : Strands env line s) :
    ∃ o ∈ s.orders env line, o.abandons env = true ∧
      ∃ head body, o.statement? = some (.single head body) := by
  obtain ⟨front, o, back, heq, habandons, -⟩ := h.unarmed
  have ho : o ∈ s.orders env line := by
    rw [heq]
    exact List.mem_append_right front (List.mem_cons_self ..)
  exact ⟨o, ho, habandons, Order.exists_single_of_abandons habandons (h.stayed o ho)⟩

/-! ## Calls -/

theorem Plan.wakeable {plan : Plan}
    (hreturns : ∀ u ∈ plan.runs, ∃ met, Returns env u met (run env u))
    (hrest : ∀ u, plan = .rest u → Wakeable u) : Wakeable (plan.carryOut env) := by
  cases plan with
  | rest u => exact hrest u rfl
  | runOn u =>
    obtain ⟨met, hmet⟩ := hreturns u (List.mem_singleton_self u)
    exact wakeable_of_returns hmet

/-- A script that goes on or ends is not left to rest. -/
theorem Plan.GoesOn.wakeable {plan : Plan} (h : plan.GoesOn) (hrest : plan = .rest t) :
    Wakeable t := by
  obtain ⟨u, hu⟩ | ⟨u, hu, hstopped⟩ := h
  · rw [hu] at hrest
    cases hrest
  · rw [hu] at hrest
    cases hrest
    exact .of_stopped hstopped

theorem wakeable_of_heedPlan (h : Wakeable s) (hrest : s.heedPlan env line = .rest t) :
    Wakeable t := by
  by_cases hphase : s.phase = .running
  · cases hsat : s.isSatisfiedBy env line with
    | true => exact (goesOn_heedPlan hphase hsat).wakeable hrest
    | false =>
      rw [heedPlan_of_not_satisfied hsat] at hrest
      cases hrest
      exact h
  · rw [heedPlan_of_not_running hphase] at hrest
    cases hrest
    exact h

/-! ### Lines -/

/-- A line that strands a script leaves it running with nothing armed. -/
theorem Strands.onLine (h : Strands env line s) :
    (s.onLine env line).phase = .running ∧ (s.onLine env line).isWaiting = false := by
  have hgone : (s.react env line).2.isWaiting = false :=
    (carries_react env line s).isWaiting_eq_false_iff.mpr (.inr h.unarmed)
  have hunsat : (s.react env line).2.isSatisfiedBy env line = false := by
    rw [isWaiting, Bool.or_eq_false_iff, Option.isSome_eq_false_iff,
      Option.isNone_iff_eq_none] at hgone
    rw [isSatisfiedBy, hgone.1]
  rw [(onLine_of_stayed h.running (react_of_stayed h.stayed) hunsat).2]
  exact ⟨(phase_react env line s).trans h.running, hgone⟩

/-- What the actions of a line leave can be woken, unless they strand the script. -/
theorem wakeable_reactPlan (h : Wakeable s) (hphase : s.phase = .running)
    (hreturns : (Call.line line).Returns env s) (hstrands : ¬ Strands env line s) :
    Wakeable ((s.reactPlan env line).carryOut env) := by
  have hgone := (carries_react env line s).isWaiting_eq_false_iff
  have hstayed := @fst_react_eq_stayed_iff env s line
  rcases hreact : s.react env line with ⟨reaction, t⟩
  rw [hreact] at hgone hstayed
  rw [reactPlan, hreact]
  cases reaction with
  | ended => exact wakeable_cancel t
  | jumped =>
    have hmem : t ∈ (Call.line line).runs env s := by
      rw [Call.runs, (onLine_of_jumped hphase hreact).1]
      exact List.mem_cons_self ..
    obtain ⟨met, hmet⟩ := hreturns t hmem
    exact wakeable_of_returns hmet
  | stayed =>
    refine .of_isWaiting (Bool.not_eq_false _ ▸ fun hnot => ?_)
    obtain ⟨hnone, -⟩ | hunarmed := hgone.mp hnot
    · rw [h.running hphase] at hnone
      cases hnone
    · exact hstrands ⟨hphase, hstayed.mp rfl, hunarmed⟩

/-- **A line leaves a script where something can wake it, unless it strands the script.** -/
theorem wakeable_line_iff (h : Wakeable s) (hreturns : (Call.line line).Returns env s) :
    Wakeable (s.onLine env line) ↔ ¬ Strands env line s := by
  constructor
  · intro hwake hstrands
    obtain ⟨hphase, hgone⟩ := hstrands.onLine
    rw [hwake.running hphase] at hgone
    cases hgone
  · intro hstrands
    by_cases hphase : s.phase = .running
    · rw [onLine_eq env line hphase]
      refine Plan.wakeable ?_ fun u hu =>
        wakeable_of_heedPlan (wakeable_reactPlan h hphase hreturns hstrands) hu
      intro u hu
      refine hreturns u ?_
      rw [Call.runs, runsOn, if_pos hphase]
      exact List.mem_append_right _ hu
    · rw [Script.onLine, if_pos hphase]
      exact h

/-! ### Other calls -/

theorem wakeable_pause (h : Wakeable s) : Wakeable s.pause := by
  unfold pause
  split
  · next hphase => exact .of_isWaiting (h.running hphase)
  · exact h

theorem wakeable_of_startPlan {args : List String} (h : Wakeable s)
    (hrest : s.startPlan args = .rest t) : Wakeable t := by
  unfold startPlan at hrest
  split at hrest
  · cases hrest
  · cases hrest
    exact h

/-- A script that is resumed and not marked to run on waits for something. -/
theorem wakeable_of_resumePlan (h : Wakeable s) (hrest : s.resumePlan = .rest t) : Wakeable t := by
  unfold resumePlan at hrest
  split at hrest
  · next hphase =>
    dsimp only at hrest
    split at hrest
    · cases hrest
    · next hpending =>
      cases hrest
      exact .of_isWaiting ((h.paused hphase).resolve_right hpending)
  · cases hrest
    exact h

theorem wakeable_of_matchedPlan {caps : Captures} (h : Wakeable s)
    (hrest : s.matchedPlan env caps = .rest t) : Wakeable t := by
  unfold matchedPlan at hrest
  split at hrest
  · cases hrest; exact h
  · split at hrest
    · cases hrest; exact h
    · split at hrest
      · exact (goesOn_matchPlan env _ caps s).wakeable hrest
      · cases hrest; exact h
    · cases hrest

theorem wakeable_of_promptPlan (h : Wakeable s) (hrest : s.promptPlan env = .rest t) :
    Wakeable t := by
  unfold promptPlan at hrest
  split at hrest
  · cases hrest; exact h
  · split at hrest
    · cases hrest
    · next condition _ =>
      have hsame := s.sameStand_decideCondition env condition
      split at hrest
      · cases hrest
      · next u heq =>
        cases hrest
        rw [heq] at hsame
        exact h.of_sameStand hsame
    · cases hrest; exact h

theorem wakeable_of_roomPlan (h : Wakeable s) (hrest : s.roomPlan = .rest t) : Wakeable t := by
  unfold roomPlan at hrest
  split at hrest
  · cases hrest; exact h
  · split at hrest
    · cases hrest
    · cases hrest; exact h

/-- A timer that has run out makes the script run on, or is wound up again. -/
theorem wakeable_of_timerPlan {instant : Nat} (h : Wakeable s)
    (hrest : s.timerPlan env instant = .rest t) : Wakeable t := by
  unfold timerPlan at hrest
  split at hrest
  · cases hrest; exact h
  · split at hrest
    · cases hrest; exact h
    · dsimp only at hrest
      split at hrest
      · split at hrest
        · cases hrest
          exact .of_isWaiting (Bool.or_true _)
        · cases hrest
      · cases hrest
      · cases hrest

/-- Where a call lets a script rest, something can wake it; of a line more has to be known. -/
theorem wakeable_of_plan {call : Call} (h : Wakeable s) (hline : ∀ line, call ≠ .line line)
    (hrest : call.plan env s = .rest t) : Wakeable t := by
  cases call with
  | line text => exact absurd rfl (hline text)
  | next => cases hrest
  | pause => cases hrest; exact wakeable_pause h
  | cancel => cases hrest; exact wakeable_cancel s
  | start => exact wakeable_of_startPlan h hrest
  | resume => exact wakeable_of_resumePlan h hrest
  | matched => exact wakeable_of_matchedPlan h hrest
  | prompt => exact wakeable_of_promptPlan h hrest
  | roomChange => exact wakeable_of_roomPlan h hrest
  | timer => exact wakeable_of_timerPlan h hrest

/-! ## Histories -/

/-- Whether a call strands a script. -/
def Moment.Strands (m : Moment) : Prop :=
  ∃ line, m.call = .line line ∧ Script.Strands m.env line m.script

/-- **Every call leaves a script where something can wake it, except a line that strands it.** -/
theorem wakeable_apply_iff {call : Call} (h : Wakeable s) (hreturns : call.Returns env s) :
    Wakeable (call.apply env s) ↔ ¬ Moment.Strands ⟨env, call, s⟩ := by
  by_cases hline : ∃ line, call = .line line
  · obtain ⟨line, rfl⟩ := hline
    refine (wakeable_line_iff h hreturns).trans (not_congr ⟨fun hs => ⟨line, rfl, hs⟩, ?_⟩)
    rintro ⟨_, hcall, hs⟩
    cases hcall
    exact hs
  · rw [not_exists] at hline
    refine iff_of_true ?_ fun ⟨line, hcall, _⟩ => hline line hcall
    have hruns : call.runs env s = (call.plan env s).runs := by
      cases call with
      | line text => exact absurd rfl (hline text)
      | _ => rfl
    rw [Call.Returns, hruns] at hreturns
    rw [Call.apply_eq]
    exact Plan.wakeable hreturns fun u hu => wakeable_of_plan h hline hu

/-- A history whose every state can be woken starts in one. -/
theorem Calls.wakeable_first {moments : List Moment} (h : Calls s moments t)
    (hall : (∀ m ∈ moments, Wakeable m.script) ∧ Wakeable t) : Wakeable s := by
  cases h with
  | nil => exact hall.2
  | cons => exact hall.1 _ (List.mem_cons_self ..)

/-- What a call preserves, a history preserves. -/
theorem Calls.wakeable_iff {moments : List Moment} (hcalls : Calls s moments t) (h : Wakeable s) :
    (∀ m ∈ moments, Wakeable m.script) ∧ Wakeable t ↔ ∀ m ∈ moments, ¬ m.Strands := by
  induction hcalls with
  | nil => simpa using h
  | cons hreturns rest ih =>
    have hstep := wakeable_apply_iff h hreturns
    rw [List.forall_mem_cons, List.forall_mem_cons]
    constructor
    · rintro ⟨⟨-, hall⟩, hlast⟩
      have hnext := rest.wakeable_first ⟨hall, hlast⟩
      exact ⟨hstep.mp hnext, (ih hnext).mp ⟨hall, hlast⟩⟩
    · rintro ⟨hfirst, hrest⟩
      obtain ⟨hall, hlast⟩ := (ih (hstep.mpr hfirst)).mpr hrest
      exact ⟨⟨h, hall⟩, hlast⟩

/-- **When something can always wake a suspended script.**  Take any program, and any calls made on
a fresh script of it that come back, in any surroundings, whatever is drawn at random and whatever
the clock shows each time it is read.  In all states that the script goes through, it waits for
something while it is running, and while it is paused waits or is marked to run on, exactly when
none of the calls is a line that strands it.  And a line that does has an action carry out a jump
from within a conditional. -/
theorem always_wakeable_iff {program : Program} {settings : Settings} {moments : List Moment}
    (hcalls : Calls (ofProgram program settings) moments t) :
    ((∀ m ∈ moments, Wakeable m.script) ∧ Wakeable t ↔ ∀ m ∈ moments, ¬ m.Strands) ∧
      ∀ m ∈ moments, m.Strands → ∃ line, m.call = .line line ∧
        ∃ o ∈ m.script.orders m.env line, o.abandons m.env = true ∧
          ∃ head body, o.statement? = some (.single head body) := by
  have hfresh : Wakeable (ofProgram program settings) := .of_notStarted rfl
  refine ⟨hcalls.wakeable_iff hfresh, ?_⟩
  rintro m - ⟨line, hline, hstrands⟩
  exact ⟨line, hline, hstrands.exists_single⟩

/-- The calls that start the script of `watching` and tell it to stop. -/
def watcherCalls (command : String) (rest : List String) : List Moment :=
  [⟨{}, .start [], ofProgram (watching command rest) {}⟩, ⟨{}, .line "Stop", watcher command rest⟩]

theorem calls_watcher (command : String) (rest : List String) :
    Calls (ofProgram (watching command rest) {}) (watcherCalls command rest)
      (onLine {} "Stop" (watcher command rest)) :=
  have hw : 0 < ({} : Env).settings.loopWindow := by decide
  .cons (Call.returns_of_window hw _ _) (.cons (Call.returns_of_window hw _ _) (.nil _))

/-- A script that goes to a label when it is told to stop, and waits there, can always be woken. -/
theorem jumper_always_wakeable :
    Calls (ofProgram (watching "goto here" ["here:", "nextroom", "echo late"]) {})
        (watcherCalls "goto here" ["here:", "nextroom", "echo late"])
        (onLine {} "Stop" (jumper "nextroom")) ∧
      (∀ m ∈ watcherCalls "goto here" ["here:", "nextroom", "echo late"], Wakeable m.script) ∧
      Wakeable (onLine {} "Stop" (jumper "nextroom")) := by
  have hcalls := calls_watcher "goto here" ["here:", "nextroom", "echo late"]
  obtain ⟨horders, -⟩ := react_watcher "goto here" ["here:", "nextroom", "echo late"]
    (by decide +kernel) (by decide +kernel) (by decide +kernel) rfl
  have hjumped : (watchOrder "goto here" ["here:", "nextroom", "echo late"]).reaction {} =
      .jumped := by
    decide +kernel
  refine ⟨hcalls, (always_wakeable_iff hcalls).1.mpr ?_⟩
  rw [watcherCalls, List.forall_mem_cons, List.forall_mem_singleton]
  constructor
  · rintro ⟨line, hcall, -⟩
    cases hcall
  · rintro ⟨line, hcall, hstrands⟩
    cases hcall
    have hstayed := hstrands.stayed
    rw [horders, List.forall_mem_singleton, hjumped] at hstayed
    cases hstayed

/-- **With the jump in a conditional nothing can wake the script any more**: it is left running, and
waits for nothing. -/
theorem guarded_jumper_stranded :
    Calls (ofProgram (watching "if_0 then goto here" ["here:", "echo late"]) {})
        (watcherCalls "if_0 then goto here" ["here:", "echo late"])
        (onLine {} "Stop" (watcher "if_0 then goto here" ["here:", "echo late"])) ∧
      (onLine {} "Stop" (watcher "if_0 then goto here" ["here:", "echo late"])).phase =
        .running ∧
      (onLine {} "Stop" (watcher "if_0 then goto here" ["here:", "echo late"])).isWaiting =
        false := by
  obtain ⟨horders, -⟩ := react_watcher "if_0 then goto here" ["here:", "echo late"]
    (by decide +kernel) (by decide +kernel) (by decide +kernel) rfl
  have hstrands : Strands {} "Stop" (watcher "if_0 then goto here" ["here:", "echo late"]) := by
    refine ⟨by decide +kernel, ?_, [], _, [], horders, by decide +kernel, List.forall_mem_nil _⟩
    rw [horders, List.forall_mem_singleton]
    decide +kernel
  exact ⟨calls_watcher _ _, hstrands.onLine⟩

end Script

end StreamScript
