import StreamScript.Proofs.Blocks.Meaning
import StreamScript.Proofs.Events.Soundness
import StreamScript.Proofs.Preceding

/-!
# Pauses

A paused script hears nothing but the time.  When its timer runs out meanwhile, what
it would have done then is put off until it is resumed, and is done once.

To see that nothing is lost or done twice, one run is set beside another: in the first
the script is paused, hears some news and at most one instant, and is resumed; in the
second it is not paused and hears the instant only.  What is left to do about an
instant depends neither on the phase nor on what was said before (`timerPlan_setBack`),
and what a script does when it runs on does not depend on what was said before
(`run_preceded`).  So both runs come to the same state behind different beginnings of
the log (`exists_common`), and the beginnings differ in two messages.
-/

namespace StreamScript

namespace Script

variable {env : Env} {s : Script}

/-! ## Calls that a paused script does not hear -/

namespace Call

/-- Whether a call is about something that a script may wait for, other than the time. -/
def isNews : Call → Bool
  | .line _ | .matched _ | .prompt | .roomChange => true
  | _ => false

/-- What calls make of a script one after another. -/
def applyAll (env : Env) (calls : List Call) (s : Script) : Script :=
  calls.foldl (fun s call => call.apply env s) s

theorem applyAll_append (env : Env) (front back : List Call) (s : Script) :
    applyAll env (front ++ back) s = applyAll env back (applyAll env front s) :=
  List.foldl_append

theorem apply_of_isNews (env : Env) {call : Call} (h : call.isNews = true)
    (hphase : s.phase = .paused) : call.apply env s = s := by
  have hne : s.phase ≠ .running := by
    rw [hphase]
    exact nofun
  cases call with
  | line | matched | prompt | roomChange => exact if_pos hne
  | _ => cases h

theorem applyAll_of_isNews (env : Env) {calls : List Call} (h : ∀ call ∈ calls, call.isNews = true)
    (hphase : s.phase = .paused) : applyAll env calls s = s := by
  induction calls with
  | nil => rfl
  | cons call rest ih =>
    obtain ⟨hfirst, hrest⟩ := List.forall_mem_cons.mp h
    rw [applyAll, List.foldl_cons, apply_of_isNews env hfirst hphase]
    exact ih hrest

end Call

/-! ## Instants -/

/-- The same plan for a script that is changed in some way. -/
def Plan.map (f : Script → Script) : Plan → Plan
  | .rest s => .rest (f s)
  | .runOn s => .runOn (f s)

/-- A script in some phase, in front of whose log something stands. -/
def setBack (phase : Phase) (front : Array Event) (s : Script) : Script :=
  { s.preceded front with phase := phase }

variable {phase : Phase} {front : Array Event}

theorem debug_setBack (level : DebugLevel) (message : String) :
    (s.setBack phase front).debug level message = (s.debug level message).setBack phase front := by
  have hdebug := debug_preceded front s level message
  unfold setBack
  rw [← hdebug]
  unfold debug
  split <;> rfl

/-- **What is left to do about an instant** is the same for a script that is paused. -/
theorem timerPlan_setBack (env : Env) (instant : Nat) (hphase : phase ≠ .stopped)
    (hs : s.phase ≠ .stopped) :
    (s.setBack phase front).timerPlan env instant =
      (s.timerPlan env instant).map (setBack phase front) := by
  have hstopped : (s.setBack phase front).isStopped = s.isStopped := by
    rw [isStopped, isStopped, beq_eq_false_iff_ne.mpr hs]
    exact beq_eq_false_iff_ne.mpr hphase
  have hout : { s.setBack phase front with timer? := none } =
      setBack phase front { s with timer? := none } := rfl
  unfold timerPlan
  rw [hstopped, hout, show (s.setBack phase front).timer? = s.timer? from rfl]
  cases s.timer? with
  | none => rfl
  | some timer =>
    dsimp only
    split
    · rfl
    · generalize ({ s with timer? := none } : Script) = t
      cases timer.kind with
      | pause =>
        dsimp only
        cases roundtime? env.globals with
        | none => rfl
        | some seconds =>
          dsimp only
          rw [debug_setBack]
          rfl
      | roundtime => rfl
      | matchTimeout =>
        dsimp only
        rw [debug_setBack]
        rfl

/-- An instant neither moves a script nor changes its phase. -/
theorem timerPlan_keeps (env : Env) (instant : Nat) (s : Script) :
    (s.timerPlan env instant).script.walk = s.walk ∧
      (s.timerPlan env instant).script.phase = s.phase ∧
      (s.timerPlan env instant).script.resumePending = s.resumePending := by
  have hdebug (t : Script) (message : String) := t.sameStand_debug .waits message
  unfold timerPlan
  split
  · exact ⟨rfl, rfl, rfl⟩
  · split
    · exact ⟨rfl, rfl, rfl⟩
    · have hout := hdebug { s with timer? := none }
      dsimp only
      split
      · split
        · exact ⟨(hout _).walk, (hout _).phase, (hout _).resumePending⟩
        · exact ⟨rfl, rfl, rfl⟩
      · exact ⟨rfl, rfl, rfl⟩
      · exact ⟨(hout _).walk, (hout _).phase, (hout _).resumePending⟩

/-! ## Two runs -/

/-- A script that has said nothing. -/
def unsaid (s : Script) : Script :=
  { s with log := #[] }

/-- The message that a script is paused. -/
def pausing (s : Script) : Event :=
  .status ("[Pausing '" ++ s.name ++ "']")

/-- The message that a script is resumed. -/
def resuming (s : Script) : Event :=
  .status ("[Resuming '" ++ s.name ++ "']")

theorem preceded_unsaid (front : Array Event) (s : Script) :
    s.unsaid.preceded front = { s with log := front } := by
  unfold unsaid preceded
  rw [Array.append_empty]

theorem setBack_eq (h : s.phase = .running) :
    s.setBack .running front = s.unsaid.preceded (front ++ s.log) := by
  rw [preceded_unsaid, ← h]
  rfl

theorem pause_eq (h : s.phase = .running) :
    s.pause = s.unsaid.setBack .paused (s.log.push s.pausing) := by
  rw [pause_of_running h, setBack, preceded_unsaid]
  rfl

theorem woken_setBack (h : s.phase = .running) (hpending : s.resumePending = false)
    (front : Array Event) (pending : Bool) :
    woken { s.setBack .paused front with resumePending := pending } =
      s.unsaid.preceded ((front ++ s.log).push s.resuming) := by
  have hsame : s = { s with phase := .running, resumePending := false } := by
    rw [← h, ← hpending]
  rw [preceded_unsaid]
  exact congrArg (fun t : Script => { t with log := (front ++ s.log).push s.resuming }) hsame.symm

theorem resume_of_paused (env : Env) (h : s.phase = .paused) :
    s.resume env = if s.resumePending then run env s.woken else s.woken := by
  rw [resume, h]
  rfl

theorem run_of_paused (env : Env) (h : s.phase = .paused) :
    run env s = { s with resumePending := true } := by
  rw [run, stepBound, steps, step_of_paused env h]

namespace Plan

/-- What is carried out at once, if the script is running. -/
theorem carryOut_setBack {plan : Plan} (env : Env) (h : plan.script.phase = .running) :
    (plan.map (setBack .running front)).carryOut env =
      ((plan.map unsaid).carryOut env).preceded (front ++ plan.script.log) := by
  cases plan with
  | rest u => exact setBack_eq h
  | runOn u =>
    change run env (u.setBack .running front) = (run env u.unsaid).preceded (front ++ u.log)
    rw [← run_preceded]
    exact congrArg (run env) (setBack_eq h)

/-- A script that is paused stays so until it is resumed. -/
theorem phase_carryOut_setBack {plan : Plan} (env : Env) :
    ((plan.map (setBack .paused front)).carryOut env).phase = .paused := by
  cases plan with
  | rest u => rfl
  | runOn u =>
    change (run env (u.setBack .paused front)).phase = .paused
    rw [run_of_paused env rfl]
    rfl

/-- **What is put off while a script is paused is done when it is resumed.** -/
theorem resume_setBack {plan : Plan} (env : Env) (h : plan.script.phase = .running)
    (hpending : plan.script.resumePending = false) :
    ((plan.map (setBack .paused front)).carryOut env).resume env =
      ((plan.map unsaid).carryOut env).preceded
        ((front ++ plan.script.log).push plan.script.resuming) := by
  cases plan with
  | rest u =>
    change u.resumePending = false at hpending
    have hnone : (u.setBack .paused front).resumePending = false := hpending
    change (u.setBack .paused front).resume env =
      u.unsaid.preceded ((front ++ u.log).push u.resuming)
    rw [resume_of_paused env rfl, hnone, if_neg Bool.false_ne_true]
    exact woken_setBack h hpending front u.resumePending
  | runOn u =>
    change (run env (u.setBack .paused front)).resume env =
      (run env u.unsaid).preceded ((front ++ u.log).push u.resuming)
    rw [run_of_paused env rfl, resume_of_paused env rfl, if_pos rfl, ← run_preceded]
    exact congrArg (run env) (woken_setBack h hpending front true)

end Plan

/-- The calls that tell a script of an instant, if there is one. -/
def ticks (tick? : Option Nat) : List Call :=
  tick?.toList.map .timer

/-- What is left to do about an instant, if there is one. -/
def tickPlan (env : Env) (tick? : Option Nat) (s : Script) : Plan :=
  tick?.elim (.rest s) (s.timerPlan env)

theorem applyAll_ticks (env : Env) (tick? : Option Nat) (s : Script) :
    Call.applyAll env (ticks tick?) s = (s.tickPlan env tick?).carryOut env := by
  cases tick? with
  | none => rfl
  | some instant => exact Call.apply_eq env (.timer instant) s

theorem tickPlan_setBack (env : Env) (tick? : Option Nat) (hphase : phase ≠ .stopped)
    (hs : s.phase ≠ .stopped) :
    (s.setBack phase front).tickPlan env tick? =
      (s.tickPlan env tick?).map (setBack phase front) := by
  cases tick? with
  | none => rfl
  | some instant => exact timerPlan_setBack env instant hphase hs

theorem tickPlan_keeps (env : Env) (tick? : Option Nat) (s : Script) :
    (s.tickPlan env tick?).script.walk = s.walk ∧
      (s.tickPlan env tick?).script.phase = s.phase ∧
      (s.tickPlan env tick?).script.resumePending = s.resumePending := by
  cases tick? with
  | none => exact ⟨rfl, rfl, rfl⟩
  | some instant => exact timerPlan_keeps env instant s

/-- **Both runs come to the same state**, behind different beginnings of the log. -/
theorem exists_common (env : Env) {before after : List Call} (tick? : Option Nat)
    (hbefore : ∀ call ∈ before, call.isNews = true) (hafter : ∀ call ∈ after, call.isNews = true)
    (hphase : s.phase = .running) (hpending : s.resumePending = false) :
    ∃ (t : Script) (first : Array Event),
      Call.applyAll env (ticks tick?) s = t.preceded (s.log ++ first) ∧
        Call.applyAll env (.pause :: (before ++ ticks tick? ++ after ++ [.resume])) s =
          t.preceded ((s.log.push s.pausing ++ first).push s.resuming) := by
  have hlive : s.unsaid.phase ≠ .stopped := ne_stopped_of_running hphase
  obtain ⟨hwalk, hrunning, hnone⟩ := s.unsaid.tickPlan_keeps env tick?
  replace hrunning := hrunning.trans hphase
  replace hnone := hnone.trans hpending
  generalize hplan : s.unsaid.tickPlan env tick? = plan at hwalk hrunning hnone
  refine ⟨(plan.map unsaid).carryOut env, plan.script.log, ?_, ?_⟩
  · have hself : s.unsaid.setBack .running s.log = s :=
      (setBack_eq (s := s.unsaid) hphase).trans (preceded_unsaid s.log s)
    have htick : (s.unsaid.setBack .running s.log).tickPlan env tick? =
        (s.unsaid.tickPlan env tick?).map (setBack .running s.log) :=
      tickPlan_setBack env tick? nofun hlive
    rw [hself, hplan] at htick
    rw [applyAll_ticks, htick, Plan.carryOut_setBack env hrunning]
  · have htick : (s.unsaid.setBack .paused (s.log.push s.pausing)).tickPlan env tick? =
        (s.unsaid.tickPlan env tick?).map (setBack .paused (s.log.push s.pausing)) :=
      tickPlan_setBack env tick? nofun hlive
    have hpaused : s.pause.phase = .paused := by
      rw [pause_eq hphase]
      rfl
    have hstill : ((s.pause.tickPlan env tick?).carryOut env).phase = .paused := by
      rw [pause_eq hphase, htick, hplan]
      exact Plan.phase_carryOut_setBack env
    have hname : plan.script.resuming = s.resuming := by
      rw [resuming, resuming, name, name, hwalk]
      rfl
    -- of all the calls, only the instant and the end of the pause are heard
    have hcalls : Call.applyAll env (.pause :: (before ++ ticks tick? ++ after ++ [.resume])) s =
        ((s.pause.tickPlan env tick?).carryOut env).resume env := by
      change Call.applyAll env (before ++ ticks tick? ++ after ++ [.resume]) s.pause = _
      rw [Call.applyAll_append, Call.applyAll_append, Call.applyAll_append,
        Call.applyAll_of_isNews env hbefore hpaused, applyAll_ticks,
        Call.applyAll_of_isNews env hafter hstill]
      rfl
    rw [hcalls, pause_eq hphase, htick, hplan, Plan.resume_setBack env hrunning hnone, hname]

/-! ## Pauses do not matter -/

theorem log_preceded (front : Array Event) (s : Script) :
    (s.preceded front).log.toList = front.toList ++ s.log.toList :=
  Array.toList_append

/-- **A pause neither loses nor repeats what the time brings.**  Take any running state that calls
on a fresh script can lead to, whatever has been drawn at random so far, and let the surroundings
stay as they are, the numbers that are drawn from then on among them.  If the script is paused,
hears any lines, matches, prompts and changes of room, among them one instant or none, and is
resumed, it comes to the same state as if it had heard the instant alone without being paused, apart
from what it has said; it has sent out the same echoes and commands; and what it has said differs
by the message that it is paused, in front, and the message that it is resumed, in front of what was
put off. -/
theorem pause_resume_of_calls {program : Program} {settings : Settings} {moments : List Moment}
    (hcalls : Calls (ofProgram program settings) moments s) (hphase : s.phase = .running)
    (env : Env) (before after : List Call) (tick? : Option Nat)
    (hnews : ∀ call ∈ before ++ after, call.isNews = true) :
    let plain := Call.applyAll env (ticks tick?) s
    let paused := Call.applyAll env (.pause :: (before ++ ticks tick? ++ after ++ [.resume])) s
    paused = { plain with log := paused.log } ∧
      paused.log.toList.filter Event.isSent = plain.log.toList.filter Event.isSent ∧
      ∃ first later,
        plain.log.toList = s.log.toList ++ first ++ later ∧
        paused.log.toList = s.log.toList ++ [s.pausing] ++ first ++ [s.resuming] ++ later := by
  obtain ⟨hbefore, hafter⟩ := List.forall_mem_append.mp hnews
  have hsound : Sound s := (sound_ofProgram program settings).calls hcalls
  have hpending : s.resumePending = false := by
    cases h : s.resumePending with
    | false => rfl
    | true =>
      have hpaused := hsound.resumePending h
      rw [hphase] at hpaused
      cases hpaused
  obtain ⟨t, first, hplain, hpaused⟩ := exists_common env tick? hbefore hafter hphase hpending
  have hplainLog := congrArg (·.log.toList) hplain
  have hpausedLog := congrArg (·.log.toList) hpaused
  simp only [log_preceded, Array.toList_append, Array.toList_push] at hplainLog hpausedLog
  intro plain paused
  refine ⟨?_, ?_, first.toList, t.log.toList, hplainLog, hpausedLog⟩
  · rw [show paused = _ from hpaused, show plain = _ from hplain]
    rfl
  · rw [hplainLog, hpausedLog]
    simp [List.filter_append, pausing, resuming, Event.isSent]

/-- A program that pauses before it echoes something. -/
def napping : Program where
  name := "napping"
  lines := #[⟨"pause 1", "napping", 1, _, rfl⟩, ⟨"echo awake", "napping", 2, _, rfl⟩]

/-- The script of `napping` while it pauses. -/
def napper : Script :=
  start {} [] (ofProgram napping {})

/-- When the script of `napping` wants to be woken. -/
def napEnd : Nat :=
  napper.wakeup?.getD 0

theorem napper_waits : napper.phase = .running ∧ napper.timer?.isSome = true := by
  have hline : ((ofProgram napping {}).begun []).nextLine? = some napping.lines[0] := rfl
  have hstatement : (napping.lines[0]).statement? = some (.pause "1") := by decide +kernel
  have hstep := step_of_nextLine? {} hline
  rw [runLine_of_statement {} hline hstatement] at hstep
  have hrun := (Returns.done hstep).run_eq (Nat.le_add_left 1 _)
  rw [← start_eq_run [] rfl] at hrun
  have hwaits : napper = _ := hrun
  rw [hwaits]
  exact ⟨rfl, rfl⟩

/-- Paused while its own pause runs out, it comes to the same state when it is resumed, and has sent
out the same. -/
theorem napper_paused :
    let plain := Call.applyAll {} [.timer napEnd] napper
    let paused := Call.applyAll {} [.pause, .line "Hello", .timer napEnd, .prompt, .resume] napper
    napper.phase = .running ∧ napper.timer?.isSome = true ∧
      paused = { plain with log := paused.log } ∧
      paused.log.toList.filter Event.isSent = plain.log.toList.filter Event.isSent := by
  have hw : 0 < ({} : Env).settings.loopWindow := by decide
  have hcalls : Calls (ofProgram napping {}) [⟨{}, .start [], ofProgram napping {}⟩] napper :=
    .cons (Call.returns_of_window hw _ _) (.nil _)
  have hnews : ∀ call ∈ [Call.line "Hello"] ++ [Call.prompt], call.isNews = true := by decide
  obtain ⟨hphase, htimer⟩ := napper_waits
  obtain ⟨hsame, hsent, -⟩ := pause_resume_of_calls hcalls hphase {} [.line "Hello"] [.prompt]
    (some napEnd) hnews
  exact ⟨hphase, htimer, hsame, hsent⟩

end Script

end StreamScript
