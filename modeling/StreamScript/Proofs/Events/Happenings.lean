import Mathlib.Logic.Relation
import StreamScript.Proofs.Events.Waking
import StreamScript.Proofs.InRange
import StreamScript.Proofs.Subroutines

/-!
# What happens to a script

A call on a script is made up of small things that happen one after another: it
begins, a line is carried out, lines are passed over, an action gives an order, a wait
is given up, it ends.  `Happens` lists them, each with what has to hold for it to
happen, and `happenings_apply` says that there are no others: whatever is called, the
script comes from the state in front to the one behind by happenings alone.

So what holds of a script and outlasts every happening holds always, and there is no
need to look at calls again.  This module says what happenings do to the places that a
script keeps and to its open subroutines; the number in `Happens` tells how many of
these were open all along.
-/

namespace StreamScript

/-- The least number of subroutines that are open while a command is carried out. -/
def Order.leastOpen (env : Env) (o : Order) : Nat :=
  match o.statement? with
  | none => o.script.gosubs.length
  | some statement => Script.leastOpen env statement (o.script.setVerbatim true)

namespace Script

variable {env : Env} {s t u : Script} {n : Nat}

/-! ## Happenings -/

/-- A script that was paused and is so no longer. -/
def woken (s : Script) : Script :=
  { { s with phase := .running }.status ("[Resuming '" ++ s.name ++ "']") with
    resumePending := false }

/-- The least number of subroutines that are open while a line is carried out. -/
def leastOpenOn (env : Env) (line : Line) (s : Script) : Nat :=
  match line.statement? with
  | none => s.gosubs.length
  | some statement => leastOpen env statement (s.atStatement line statement)

/-- What can happen to a script, and the least number of subroutines that are open meanwhile. -/
inductive Happens (env : Env) : Script → Nat → Script → Prop where
  | begin {s : Script} (args : List String) (h : s.phase = .notStarted) :
      Happens env s s.gosubs.length (s.begun args)
  | pause {s : Script} (h : s.phase = .running) : Happens env s s.gosubs.length s.pause
  | wake {s : Script} (h : s.phase = .paused) : Happens env s s.gosubs.length s.woken
  /-- What would run now has to wait until the script is no longer paused. -/
  | postpone {s : Script} (h : s.phase = .paused) :
      Happens env s s.gosubs.length { s with resumePending := true }
  | cancel (s : Script) : Happens env s 0 s.cancel
  | line {s : Script} {line : Line} (h : s.nextLine? = some line) :
      Happens env s (leastOpenOn env line s) (runLine env s.behindLine).2
  | skipBlock {s : Script} (h : s.phase = .running) :
      Happens env s s.gosubs.length s.skipBlock.2
  | skipChain {s : Script} (h : s.phase = .running) :
      Happens env s s.gosubs.length s.skipChain.2
  /-- Behind a wait no jump is in a row with those before it. -/
  | calm {s : Script} (h : s.phase = .running) :
      Happens env s s.gosubs.length { s with guard := {} }
  | order (o : Order) (h : o.script.phase = .running) :
      Happens env o.script (o.leastOpen env) (o.outcome env).2
  /-- An entry was matched. -/
  | entry {s : Script} (label : String) (caps : Captures) (h : s.phase = .running) :
      Happens env s (if comesBack env label s then s.gosubs.length - 1 else s.gosubs.length)
        (goto env label (.groups caps) s).2
  | note {s t : Script} (h : s.phase ≠ .stopped) (hstand : SameStand s t) (hspeaks : Speaks s t) :
      Happens env s s.gosubs.length t
  | clearWaits {s : Script} (h : s.phase ≠ .stopped) :
      Happens env s s.gosubs.length s.clearWaits
  | setTimer {s : Script} (timer? : Option Timer) (h : s.phase ≠ .stopped) :
      Happens env s s.gosubs.length { s with timer? := timer? }

/-- Things happen one after another. -/
def Happenings (env : Env) : Script → Script → Prop :=
  Relation.ReflTransGen fun s t => ∃ n, Happens env s n t

namespace Happenings

theorem refl (s : Script) : Happenings env s s :=
  Relation.ReflTransGen.refl

theorem trans (h : Happenings env s t) (h' : Happenings env t u) : Happenings env s u :=
  Relation.ReflTransGen.trans h h'

theorem and (h : Happenings env s t) (h' : Happens env t n u) : Happenings env s u :=
  Relation.ReflTransGen.tail h ⟨n, h'⟩

end Happenings

theorem Happens.happenings (h : Happens env s n t) : Happenings env s t :=
  Relation.ReflTransGen.single ⟨n, h⟩

theorem happenings_report (h : s.phase ≠ .stopped) (message : String) :
    Happenings env s (s.report message) :=
  (Happens.note h (s.sameStand_report message) (s.speaks_report message)).happenings

theorem happenings_debug (h : s.phase ≠ .stopped) (level : DebugLevel) (message : String) :
    Happenings env s (s.debug level message) :=
  (Happens.note h (s.sameStand_debug level message) (s.speaks_debug level message)).happenings

theorem happenings_setCaptured (h : s.phase ≠ .stopped) (groups : Captures) :
    Happenings env s (s.setCaptured groups) :=
  (Happens.note h (s.sameStand_setCaptured groups) (s.speaks_setCaptured groups)).happenings

theorem ne_stopped_of_running (h : s.phase = .running) : s.phase ≠ .stopped := by
  rw [h]
  exact nofun

/-! ## Runs -/

/-- The script when a line has been carried out. -/
def Step.script : Step → Script
  | .done s | .again s => s

theorem phase_runLine (env : Env) (s : Script) : (runLine env s).2.phase = s.phase := by
  unfold runLine
  split
  · rfl
  · next line _ =>
    dsimp only
    split
    · rfl
    · next statement _ =>
      rw [phase_execute]
      exact (SameButPlace.closeSingle line statement (s.remember line)).phase

/-- To pass over a block changes nothing but the walk. -/
theorem skipBlock_eq (s : Script) : s.skipBlock.2 = { s with walk := s.skipBlock.2.walk } := by
  unfold skipBlock
  split <;> rfl

theorem happenings_ofSkip {r : Bool × Script} (h : r.2.phase = .running) :
    Happenings env r.2 (ofSkip r).script := by
  obtain ⟨closed, s⟩ := r
  cases closed with
  | true => exact .refl s
  | false => exact (happenings_report (ne_stopped_of_running h) _).and (.cancel _)

theorem happenings_proceed {r : Flow × Script} (h : r.2.phase = .running) :
    Happenings env r.2 (proceed r).script := by
  obtain ⟨flow, s⟩ := r
  cases flow with
  | next => exact .refl s
  | wait => exact (Happens.calm h).happenings
  | exit => exact (Happens.cancel s).happenings
  | skipBlock =>
    have hphase : s.skipBlock.2.phase = .running := by
      rw [skipBlock_eq]
      exact h
    exact (Happens.skipBlock h).happenings.trans (happenings_ofSkip hphase)
  | skipChain => exact (Happens.skipChain h).happenings.trans (happenings_ofSkip h)

theorem step_of_paused (env : Env) (h : s.phase = .paused) :
    step env s = .done { s with resumePending := true } := by
  unfold step
  split
  · next hp => rw [h] at hp; cases hp
  · next hp => rw [h] at hp; cases hp
  · rfl
  · next hp => rw [h] at hp; cases hp

theorem happenings_step (env : Env) (s : Script) : Happenings env s (step env s).script := by
  cases hphase : s.phase with
  | notStarted | stopped =>
    rw [step, hphase]
    exact .refl s
  | paused =>
    rw [step_of_paused env hphase]
    exact (Happens.postpone hphase).happenings
  | running =>
    cases hline : s.nextLine? with
    | none =>
      have hsize : ¬ s.walk.next < s.walk.program.lines.size := by
        rw [nextLine?, if_pos hphase] at hline
        exact Nat.not_lt.mpr (Array.getElem?_eq_none_iff.mp hline)
      rw [step_of_advance?_eq_none env hphase (if_neg hsize)]
      exact (Happens.cancel s).happenings
    | some line =>
      rw [step_of_nextLine? env hline]
      exact (Happens.line hline).happenings.trans
        (happenings_proceed ((phase_runLine env s.behindLine).trans hphase))

theorem happenings_steps (env : Env) (n : Nat) (s : Script) : Happenings env s (steps env n s) := by
  induction n generalizing s with
  | zero => exact .refl s
  | succ n ih =>
    have hstep := happenings_step env s
    rw [steps]
    cases h : step env s with
    | done t => rw [h] at hstep; exact hstep
    | again t => rw [h] at hstep; exact hstep.trans (ih t)

theorem happenings_run (env : Env) (s : Script) : Happenings env s (run env s) :=
  happenings_steps env _ s

/-! ## Plans -/

namespace Plan

/-- The script about which something is left to do. -/
def script : Plan → Script
  | .rest s | .runOn s => s

theorem happenings {plan : Plan} (h : Happenings env s plan.script) :
    Happenings env s (plan.carryOut env) := by
  cases plan with
  | rest t => exact h
  | runOn t => exact h.trans (happenings_run env t)

end Plan

/-- Commands are carried out in the phase in which they are given. -/
theorem happenings_runCommands (env : Env) (jumped : Bool) (commands : List String)
    (h : s.phase = .running) :
    Happenings env s (runCommands env jumped commands s).2 ∧
      (runCommands env jumped commands s).2.phase = .running := by
  induction commands generalizing jumped s with
  | nil => exact ⟨.refl s, h⟩
  | cons command rest ih =>
    have hfirst : Happenings env s ((s.order env command).outcome env).2 :=
      (Happens.order (s.order env command) h).happenings
    have hphase : ((s.order env command).outcome env).2.phase = .running :=
      ((s.order env command).phase_outcome env).trans h
    rw [runCommands, runCommand_eq]
    cases (s.order env command).reaction env with
    | ended => exact ⟨hfirst, hphase⟩
    | jumped =>
      obtain ⟨hrest, hrunning⟩ := ih true hphase
      exact ⟨hfirst.trans hrest, hrunning⟩
    | stayed =>
      obtain ⟨hrest, hrunning⟩ := ih jumped hphase
      exact ⟨hfirst.trans hrest, hrunning⟩

theorem speaks_setOff (action : Action) (caps : Captures) (s : Script) :
    Speaks s (s.setOff action caps) := by
  have hscopes : Speaks s { s with
      scopes := { s.scopes with actionCaptured := Scope.indexed caps } } :=
    s.speaks_withScopes rfl
  exact hscopes.trans (speaks_debug _ .actions _)

theorem happenings_trigger (env : Env) (line : String) (jumped : Bool) (actions : List Action)
    (h : s.phase = .running) : Happenings env s (trigger env line jumped actions s).2 := by
  induction actions generalizing jumped s with
  | nil => exact .refl s
  | cons action rest ih =>
    cases hmatch : env.matcher.regex line
        (s.scopes.substituteAction env.globals action.pattern) with
    | none =>
      rw [trigger, hmatch]
      exact ih jumped h
    | some caps =>
      have hsame := sameStand_setOff action caps s
      have hoff : Happenings env s (s.setOff action caps) :=
        (Happens.note (ne_stopped_of_running h) hsame (speaks_setOff action caps s)).happenings
      obtain ⟨hcommands, hphase⟩ := happenings_runCommands env false
        (Action.splitCommands action.command) (hsame.phase.trans h)
      rw [trigger_cons_of_some jumped hmatch rest]
      split
      · exact hoff.trans hcommands
      · exact (hoff.trans hcommands).trans (ih _ hphase)

theorem happenings_reactPlan (env : Env) (line : String) (h : s.phase = .running) :
    Happenings env s (s.reactPlan env line).script := by
  have htrigger := happenings_trigger env line false (s.actions.filter (·.enabled)) h
  rw [reactPlan, react]
  generalize trigger env line false (s.actions.filter (·.enabled)) s = r at htrigger ⊢
  obtain ⟨reaction, t⟩ := r
  cases reaction with
  | ended => exact htrigger.and (.cancel t)
  | jumped | stayed => exact htrigger

theorem happenings_matchPlan (env : Env) (label : String) (caps : Captures)
    (h : s.phase = .running) : Happenings env s (s.matchPlan env label caps).script := by
  have hnote : Happenings env s (s.debug .waits ("match " ++ label)) :=
    happenings_debug (ne_stopped_of_running h) .waits _
  have hgoto := hnote.and (.entry label caps ((phase_debug s .waits _).trans h))
  rw [matchPlan]
  generalize goto env label (.groups caps) (s.debug .waits ("match " ++ label)) = r at hgoto ⊢
  obtain ⟨flow, t⟩ := r
  cases flow with
  | exit => exact hgoto.and (.cancel t)
  | next | wait | skipBlock | skipChain => exact hgoto

theorem happenings_heedPlan (env : Env) (line : String) (s : Script) :
    Happenings env s (s.heedPlan env line).script := by
  rw [heedPlan]
  split
  · exact .refl s
  · next hphase =>
    have hrunning := Classical.not_not.mp hphase
    have hlive := ne_stopped_of_running hrunning
    split
    · split
      · exact (Happens.clearWaits hlive).happenings
      · exact .refl s
    · split
      · next caps _ => exact (happenings_setCaptured hlive caps).and (.clearWaits hlive)
      · exact .refl s
    · split
      · next label caps _ => exact happenings_matchPlan env label caps hrunning
      · exact .refl s
    · exact .refl s

theorem happenings_timerPlan (env : Env) (instant : Nat) (s : Script) :
    Happenings env s (s.timerPlan env instant).script := by
  rw [timerPlan]
  split
  · exact .refl s
  · next timer _ =>
    split
    · exact .refl s
    · next hnot =>
      have hlive : s.phase ≠ .stopped := by
        intro hstopped
        rw [isStopped, hstopped] at hnot
        exact hnot rfl
      have hout : Happenings env s { s with timer? := none } :=
        (Happens.setTimer none hlive).happenings
      have hlive' : ({ s with timer? := none } : Script).phase ≠ .stopped := hlive
      dsimp only
      generalize ({ s with timer? := none } : Script) = t at hout hlive' ⊢
      split
      · split
        · refine (hout.trans (happenings_debug hlive' .waits _)).and (.setTimer _ ?_)
          rw [phase_debug]
          exact hlive'
        · exact hout
      · exact hout
      · refine (hout.trans (happenings_debug hlive' .waits _)).and (.clearWaits ?_)
        rw [phase_debug]
        exact hlive'

theorem happenings_promptPlan (env : Env) (s : Script) :
    Happenings env s (s.promptPlan env).script := by
  rw [promptPlan]
  split
  · exact .refl s
  · next hphase =>
    have hlive := ne_stopped_of_running (Classical.not_not.mp hphase)
    split
    · exact (Happens.clearWaits hlive).happenings
    · next condition _ =>
      have hsame := s.sameStand_decideCondition env condition
      have hnote : Happenings env s (s.decideCondition env condition).2 :=
        (Happens.note hlive hsame (s.speaks_decideCondition env condition)).happenings
      split
      · next t heq =>
        rw [heq] at hnote hsame
        exact hnote.and (.clearWaits (by rw [hsame.phase]; exact hlive))
      · next t heq =>
        rw [heq] at hnote
        exact hnote
    · exact .refl s

theorem happenings_matchedPlan (env : Env) (caps : Captures) (s : Script) :
    Happenings env s (s.matchedPlan env caps).script := by
  rw [matchedPlan]
  split
  · exact .refl s
  · next hphase =>
    have hrunning := Classical.not_not.mp hphase
    have hlive := ne_stopped_of_running hrunning
    split
    · exact .refl s
    · split
      · next label _ _ => exact happenings_matchPlan env label caps hrunning
      · exact .refl s
    · exact (happenings_setCaptured hlive caps).and (.clearWaits hlive)

/-- **Whatever is called, nothing but happenings comes of it.** -/
theorem happenings_apply (env : Env) (call : Call) (s : Script) :
    Happenings env s (call.apply env s) := by
  rw [call.apply_eq]
  refine Plan.happenings ?_
  cases call with
  | start args =>
    rw [Call.plan, startPlan]
    split
    · next hphase => exact (Happens.begin args hphase).happenings
    · exact .refl s
  | next => exact .refl s
  | pause =>
    change Happenings env s s.pause
    by_cases hphase : s.phase = .running
    · exact (Happens.pause hphase).happenings
    · have hsame : s.pause = s := by
        unfold Script.pause
        split
        · contradiction
        · rfl
      rw [hsame]
      exact .refl s
  | resume =>
    rw [Call.plan, resumePlan]
    split
    · next hphase =>
      have hwake : Happenings env s s.woken := (Happens.wake hphase).happenings
      dsimp only
      split <;> exact hwake
    · exact .refl s
  | cancel => exact (Happens.cancel s).happenings
  | line text =>
    rw [Call.plan, linePlan]
    split
    · exact .refl s
    · next hphase =>
      exact (Plan.happenings (happenings_reactPlan env text (Classical.not_not.mp hphase))).trans
        (happenings_heedPlan env text _)
  | matched caps => exact happenings_matchedPlan env caps s
  | prompt => exact happenings_promptPlan env s
  | roomChange =>
    rw [Call.plan, roomPlan]
    split
    · exact .refl s
    · next hphase =>
      split
      · exact (Happens.clearWaits
          (ne_stopped_of_running (Classical.not_not.mp hphase))).happenings
      · exact .refl s
  | timer instant => exact happenings_timerPlan env instant s

/-! ## Programs -/

theorem program_runLine (env : Env) {line : Line} (h : s.nextLine? = some line) :
    (runLine env s.behindLine).2.walk.program = s.walk.program := by
  cases hstatement : line.statement? with
  | none =>
    rw [runLine_of_no_statement env h hstatement]
    rfl
  | some statement =>
    rw [runLine_of_statement env h hstatement, (speaks_execute env statement _).program]
    exact (SameButPlace.closeSingle line statement (s.behindLine.remember line)).program

/-- Whatever happens, the program stays the same. -/
theorem Happens.program (h : Happens env s n t) : t.walk.program = s.walk.program := by
  cases h with
  | begin | wake | postpone | calm | setTimer | clearWaits => rfl
  | pause hphase =>
    rw [Script.pause, hphase]
    rfl
  | cancel =>
    rw [Script.cancel]
    split <;> rfl
  | line hline => exact program_runLine env hline
  | skipBlock => exact (forward_skipBlock s).program
  | skipChain => exact (forward_skipChain s).program
  | order o =>
    rw [Order.outcome]
    split
    · rfl
    · next statement _ => exact (speaks_execute env statement (o.script.setVerbatim true)).program
  | entry label caps => exact (s.speaks_goto env label _).program
  | note _ hstand _ => exact congrArg Walk.program hstand.walk

theorem Happenings.program (h : Happenings env s t) : t.walk.program = s.walk.program := by
  induction h with
  | refl => rfl
  | tail _ hlast ih =>
    obtain ⟨n, hhappens⟩ := hlast
    exact hhappens.program.trans ih

/-! ## Places -/

/-- **Whatever happens, every place that a script keeps exists.** -/
theorem InRange.happens (h : InRange s) (hhappens : Happens env s n t) : InRange t := by
  cases hhappens with
  | begin | wake | postpone | calm | setTimer => exact h.of_samePlaces ⟨rfl, rfl, rfl, rfl⟩
  | pause hphase =>
    rw [Script.pause, hphase]
    exact h.of_samePlaces ⟨rfl, rfl, rfl, rfl⟩
  | cancel =>
    rw [Script.cancel]
    split
    · exact h
    · exact ⟨h.walk, List.forall_mem_nil _, nofun⟩
  | line hline =>
    have hbehind : InRange s.behindLine := by
      refine h.of_sameButPlace ⟨rfl, rfl, rfl, rfl, rfl, rfl, rfl, rfl, rfl, rfl⟩ ?_
      exact ⟨next_lt_size hline, h.walk.ifs⟩
    exact hbehind.runLine env
  | skipBlock => exact h.skipBlock
  | skipChain => exact h.skipChain
  | order o =>
    rw [Order.outcome]
    split
    · exact h.report _
    · next statement _ =>
      have hverbatim := h.of_sameStand (o.script.sameStand_setVerbatim true)
      exact (hverbatim.execute env statement).of_sameStand (sameStand_setVerbatim _ false)
  | entry label caps => exact h.goto env label (.groups caps)
  | note _ hstand _ => exact h.of_sameStand hstand
  | clearWaits => exact h.clearWaits

/-! ## Subroutines -/

theorem gosubs_atStatement (line : Line) (statement : Statement) (s : Script) :
    (s.atStatement line statement).gosubs = s.gosubs :=
  (sameButPlace_atStatement line statement s).gosubs

/-- No more subroutines are open than were open or may be open. -/
theorem Happens.length_gosubs_le (h : Happens env s n t) :
    t.gosubs.length ≤ max s.gosubs.length env.settings.maxGosubs := by
  have hsame {u : Script} (hu : u.gosubs = s.gosubs) :
      u.gosubs.length ≤ max s.gosubs.length env.settings.maxGosubs := by
    rw [hu]
    exact Nat.le_max_left _ _
  cases h with
  | begin | wake | postpone | calm | setTimer | clearWaits | skipChain => exact hsame rfl
  | pause hphase =>
    rw [Script.pause, hphase]
    exact hsame rfl
  | cancel =>
    rw [Script.cancel]
    split
    · exact hsame rfl
    · exact Nat.zero_le _
  | @line _ line hline =>
    cases hstatement : line.statement? with
    | none =>
      rw [runLine_of_no_statement env hline hstatement]
      exact hsame rfl
    | some statement =>
      rw [runLine_of_statement env hline hstatement, ← gosubs_atStatement line statement s]
      exact length_gosubs_execute_le env statement _
  | skipBlock => exact hsame (congrArg (·.gosubs) s.skipBlock_eq)
  | order o =>
    rw [Order.outcome]
    split
    · exact hsame rfl
    · next statement _ => exact length_gosubs_execute_le env statement (o.script.setVerbatim true)
  | entry label caps =>
    rw [gosubs_goto]
    split
    · rw [List.length_tail]
      omega
    · exact hsame rfl
  | note _ hstand _ => exact hsame hstand.gosubs

/-- **The subroutines that are open all along are not touched**, whatever happens. -/
theorem Happens.suffix {fs : List Gosub} (h : Happens env s n t) (hsuffix : fs <:+ s.gosubs)
    (hle : fs.length ≤ n) : fs <:+ t.gosubs := by
  have hsame {u : Script} (hu : u.gosubs = s.gosubs) : fs <:+ u.gosubs := by
    rw [hu]
    exact hsuffix
  cases h with
  | begin | wake | postpone | calm | setTimer | clearWaits | skipChain => exact hsuffix
  | pause hphase =>
    rw [Script.pause, hphase]
    exact hsuffix
  | cancel => exact List.eq_nil_of_length_eq_zero (Nat.le_zero.mp hle) ▸ List.nil_suffix
  | @line _ line hline =>
    rw [leastOpenOn] at hle
    cases hstatement : line.statement? with
    | none =>
      rw [runLine_of_no_statement env hline hstatement]
      exact hsuffix
    | some statement =>
      rw [hstatement] at hle
      rw [runLine_of_statement env hline hstatement]
      exact suffix_execute (hsame (gosubs_atStatement line statement s)) hle
  | skipBlock => exact hsame (congrArg (·.gosubs) s.skipBlock_eq)
  | order o =>
    rw [Order.leastOpen] at hle
    rw [Order.outcome]
    split
    · exact hsuffix
    · next statement hstatement =>
      rw [hstatement] at hle
      exact suffix_execute (s := o.script.setVerbatim true) hsuffix hle
  | entry label caps =>
    rw [gosubs_goto]
    split
    · next hback => rw [if_pos hback] at hle; exact suffix_tail hsuffix hle
    · exact hsuffix
  | note _ hstand _ => exact hsame hstand.gosubs

end Script

end StreamScript
