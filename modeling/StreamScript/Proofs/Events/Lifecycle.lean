import StreamScript.Proofs.Events.Soundness

/-!
# The life of a script

A script can end deep inside a call: when the loop guard trips in an action, when an
entry that was matched leads to no label, when a block does not close.  All these end
it by the same means, which sends out one message, and whatever was about to be done
must not be done any more.

`Completes` says what two states of a script have to do with each other: the second has
added remarks to the log of the first, and the message that it is over at last if it
has ended in between; and if it had ended before, nothing has changed.  This passes
through any number of happenings, since behind the end there are none.  So the message
is sent at most once, when the script ends, and is the last of all.

Before a script is started nothing can come of a call, unless it ends the script.
-/

namespace StreamScript

/-- The message that a script is over. -/
def Program.completion (program : Program) : Event :=
  .status ("[Script '" ++ program.name ++ "' completed]")

namespace Script

variable {env : Env} {s t u : Script} {n : Nat} {program : Program} {settings : Settings}

/-! ## The end of a script -/

/-- What a script sends out at last when it goes from one state to another: the message that it is
over, if it has ended in between. -/
def ending (s t : Script) : List Event :=
  if s.phase ≠ .stopped ∧ t.phase = .stopped then [s.walk.program.completion] else []

theorem ending_of_not_stopped (h : t.phase ≠ .stopped) : ending s t = [] :=
  if_neg fun hboth => h hboth.2

/-- Two states of a script, in between which it has sent out remarks, and at last the message that
it is over if it has ended.  If it had ended before, the two are the same. -/
structure Completes (s t : Script) : Prop where
  program : t.walk.program = s.walk.program
  still : s.phase = .stopped → t = s
  log : ∃ said, (∀ e ∈ said, s.walk.program.IsRemark e) ∧
    t.log.toList = s.log.toList ++ said ++ ending s t

namespace Completes

theorem refl (s : Script) : Completes s s := by
  refine ⟨rfl, fun _ => rfl, [], List.forall_mem_nil _, ?_⟩
  rw [ending, if_neg fun hboth => hboth.1 hboth.2, List.append_nil, List.append_nil]

/-- Behind the end nothing is added, so the message that a script is over stays the last. -/
theorem trans (h : Completes s t) (h' : Completes t u) : Completes s u := by
  by_cases hstopped : t.phase = .stopped
  · rw [h'.still hstopped]
    exact h
  · have hlive : s.phase ≠ .stopped := fun hs => hstopped (by rw [h.still hs]; exact hs)
    have hending : ending t u = ending s u := by
      rw [ending, ending, h.program]
      simp only [hstopped, hlive, ne_eq, not_false_eq_true]
    obtain ⟨said, hsaid, hlog⟩ := h.log
    obtain ⟨said', hsaid', hlog'⟩ := h'.log
    rw [h.program] at hsaid'
    rw [ending_of_not_stopped hstopped, List.append_nil] at hlog
    refine ⟨h'.program.trans h.program, fun hs => absurd hs hlive, said ++ said',
      List.forall_mem_append.mpr ⟨hsaid, hsaid'⟩, ?_⟩
    rw [hlog', hlog, hending, List.append_assoc s.log.toList]

end Completes

theorem Lives.completes (h : Lives s t) (htraced : s.Traced) : Completes s t := by
  have hlive : t.phase ≠ .stopped := by
    rw [h.phase]
    exact h.live
  obtain ⟨said, hsaid, hlog⟩ := h.tells htraced
  refine ⟨h.program, fun hs => absurd hs h.live, said, hsaid, ?_⟩
  rw [ending_of_not_stopped hlive, List.append_nil]
  exact hlog

/-- A script that has not ended and does not end, and makes one remark at most. -/
theorem completes_of_remark (hlive : s.phase ≠ .stopped) (hlive' : t.phase ≠ .stopped)
    (hprogram : t.walk.program = s.walk.program) {said : List Event}
    (hsaid : ∀ e ∈ said, s.walk.program.IsRemark e)
    (hlog : t.log.toList = s.log.toList ++ said) : Completes s t := by
  refine ⟨hprogram, fun hs => absurd hs hlive, said, hsaid, ?_⟩
  rw [ending_of_not_stopped hlive', List.append_nil]
  exact hlog

theorem Turn.completes (h : Turn s t) : Completes s t := by
  cases h with
  | begin args hphase =>
    exact completes_of_remark (by rw [hphase]; exact nofun) nofun rfl
      (List.forall_mem_singleton.mpr .starting) Array.toList_push
  | pause hphase =>
    rw [pause_of_running hphase]
    exact completes_of_remark (ne_stopped_of_running hphase) nofun rfl
      (List.forall_mem_singleton.mpr .pausing) Array.toList_push
  | wake hphase =>
    exact completes_of_remark (by rw [hphase]; exact nofun) nofun rfl
      (List.forall_mem_singleton.mpr .resuming) Array.toList_push
  | postpone hphase =>
    have hlive : s.phase ≠ .stopped := by
      rw [hphase]
      exact nofun
    exact completes_of_remark hlive hlive rfl (List.forall_mem_nil _) (List.append_nil _).symm
  | cancel =>
    unfold Script.cancel
    split
    · exact .refl s
    · next hnot =>
      have hlive : s.phase ≠ .stopped := fun hs => hnot (by rw [isStopped, hs]; rfl)
      refine ⟨rfl, fun hs => absurd hs hlive, [], List.forall_mem_nil _, ?_⟩
      rw [ending, if_pos ⟨hlive, rfl⟩, List.append_nil]
      exact Array.toList_push

theorem Happens.completes (h : Happens env s n t) (hsound : Sound s) : Completes s t := by
  obtain hlives | hturn := h.lives_or_turn hsound.verbatim
  · exact hlives.completes hsound.traced
  · exact hturn.completes

/-- **Whatever happens, a script is over when it has said so, and not before.** -/
theorem Happenings.completes (h : Happenings env s t) (hsound : Sound s) : Completes s t := by
  induction h with
  | refl => exact .refl s
  | tail hfront hlast ih =>
    obtain ⟨n, hhappens⟩ := hlast
    exact ih.trans (hhappens.completes (hsound.happenings hfront))

theorem Calls.completes {moments : List Moment} (h : Calls s moments t) (hsound : Sound s) :
    Completes s t := by
  induction h with
  | nil s => exact .refl s
  | @cons env call s _ _ _ _ ih =>
    exact ((happenings_apply env call s).completes hsound).trans (ih (hsound.apply env call))

/-! ## Scripts that do not run -/

/-- A script that was not started or has ended. -/
def Idle (s : Script) : Prop :=
  s.phase = .notStarted ∨ s.phase = .stopped

theorem step_of_idle (env : Env) (h : s.Idle) : step env s = .done s := by
  unfold step
  split
  · rfl
  · rfl
  · next hp => rcases h with h | h <;> · rw [h] at hp; cases hp
  · next hp => rcases h with h | h <;> · rw [h] at hp; cases hp

theorem run_of_idle (env : Env) (h : s.Idle) : run env s = s := by
  rw [run, stepBound, steps, step_of_idle env h]

theorem Idle.ne_running (h : s.Idle) : s.phase ≠ .running := by
  rcases h with h | h <;> · rw [h]; exact nofun

theorem Idle.ne_paused (h : s.Idle) : s.phase ≠ .paused := by
  rcases h with h | h <;> · rw [h]; exact nofun

theorem timerPlan_of_idle (env : Env) (instant : Nat) (htimer : s.timer? = none) :
    s.timerPlan env instant = .rest s := by
  rw [timerPlan, htimer]

/-- Nothing is left to do about a script that does not run, except to start it or to end it. -/
theorem plan_of_idle (env : Env) {call : Call} (h : s.Idle) (htimer : s.timer? = none)
    (hstart : s.phase = .notStarted → ∀ args, call ≠ .start args) (hcancel : call ≠ .cancel) :
    call.plan env s = .rest s ∨ call.plan env s = .runOn s := by
  cases call with
  | start args =>
    have hphase : s.phase ≠ .notStarted := fun hp => hstart hp args rfl
    rw [Call.plan, startPlan]
    split
    · contradiction
    · exact .inl rfl
  | next => exact .inr rfl
  | pause =>
    refine .inl ?_
    rw [Call.plan, Script.pause]
    split
    · next hp => exact absurd hp h.ne_running
    · rfl
  | resume =>
    refine .inl ?_
    rw [Call.plan, resumePlan]
    split
    · next hp => exact absurd hp h.ne_paused
    · rfl
  | cancel => exact absurd rfl hcancel
  | line | matched | prompt | roomChange => exact .inl (if_pos h.ne_running)
  | timer instant => exact .inl (timerPlan_of_idle env instant htimer)

theorem apply_of_idle (env : Env) {call : Call} (h : s.Idle) (htimer : s.timer? = none)
    (hstart : s.phase = .notStarted → ∀ args, call ≠ .start args) :
    call.apply env s = s ∨ call = .cancel ∧ call.apply env s = s.cancel := by
  by_cases hcancel : call = .cancel
  · exact .inr ⟨hcancel, by rw [hcancel]; rfl⟩
  · rw [call.apply_eq]
    obtain hplan | hplan := plan_of_idle env h htimer hstart hcancel
    · rw [hplan]
      exact .inl rfl
    · rw [hplan]
      exact .inl (run_of_idle env h)

/-- **A script that has ended does not change any more.** -/
theorem apply_of_stopped (env : Env) (call : Call) (h : s.phase = .stopped) (hsound : Sound s) :
    call.apply env s = s := by
  have hstart : s.phase = .notStarted → ∀ args, call ≠ .start args := by
    rw [h]
    exact nofun
  obtain hsame | ⟨-, hcancel⟩ := apply_of_idle env (.inr h) (hsound.stopped h).timer hstart
  · exact hsame
  · rw [hcancel, cancel, isStopped, h]
    rfl

/-- No line of a script that does not run is carried out. -/
theorem linesRun_of_idle (env : Env) {call : Call} (h : s.Idle) (htimer : s.timer? = none)
    (hstart : s.phase = .notStarted → ∀ args, call ≠ .start args) :
    (call.runs env s).flatMap (linesFrom env) = [] := by
  have hlines : linesFrom env s = [] := linesFrom_eq_nil_iff.mpr (if_neg h.ne_running)
  have hplan : ((call.plan env s).runs).flatMap (linesFrom env) = [] := by
    by_cases hcancel : call = .cancel
    · rw [hcancel]
      rfl
    · obtain hplan | hplan := plan_of_idle env h htimer hstart hcancel
      · rw [hplan]
        rfl
      · rw [hplan, Plan.runs, List.flatMap_singleton]
        exact hlines
  cases call with
  | line text =>
    rw [Call.runs, runsOn, if_neg h.ne_running]
    rfl
  | _ => exact hplan

/-- A script that was never started. -/
def Unstarted (program : Program) (settings : Settings) (s : Script) : Prop :=
  s = ofProgram program settings ∨ s = (ofProgram program settings).cancel

namespace Unstarted

theorem idle (h : Unstarted program settings s) : s.Idle := by
  rcases h with rfl | rfl
  · exact .inl rfl
  · exact .inr (phase_of_cancel _)

theorem timer (h : Unstarted program settings s) : s.timer? = none := by
  rcases h with rfl | rfl <;> rfl

theorem mem_log (h : Unstarted program settings s) {e : Event} (he : e ∈ s.log.toList) :
    e = program.completion := by
  rcases h with rfl | rfl
  · cases he
  · exact List.mem_singleton.mp he

theorem apply (h : Unstarted program settings s) (env : Env) {call : Call}
    (hstart : ∀ args, call ≠ .start args) : Unstarted program settings (call.apply env s) := by
  obtain hsame | ⟨-, hcancel⟩ := apply_of_idle env h.idle h.timer fun _ => hstart
  · rw [hsame]
    exact h
  · rw [hcancel]
    rcases h with rfl | rfl
    · exact .inr rfl
    · exact .inr rfl

/-- Calls that do not start a script carry out no line of it. -/
theorem calls {moments : List Moment} (h : Unstarted program settings s)
    (hcalls : Calls s moments t) (hstart : ∀ m ∈ moments, ∀ args, m.call ≠ .start args) :
    Unstarted program settings t ∧
      ∀ m ∈ moments, (m.call.runs m.env m.script).flatMap (linesFrom m.env) = [] := by
  induction hcalls with
  | nil => exact ⟨h, List.forall_mem_nil _⟩
  | @cons env call s _ _ _ _ ih =>
    obtain ⟨hfirst, hrest⟩ := List.forall_mem_cons.mp hstart
    obtain ⟨hlast, hlines⟩ := ih (h.apply env hfirst) hrest
    exact ⟨hlast, List.forall_mem_cons.mpr
      ⟨linesRun_of_idle env h.idle h.timer fun _ => hfirst, hlines⟩⟩

end Unstarted

/-! ## Messages told apart by their text -/

/-- Where the name of a script has no colon, no remark reads like the message that it is over. -/
theorem ne_completion_of_isRemark (hname : ':' ∉ program.name.toList) {e : Event}
    (h : program.IsRemark e) : e ≠ program.completion := by
  intro heq
  cases h with
  | echo | command => cases heq
  | message _ text =>
    have hcolon := congrArg (fun e => ∃ text, e = Event.status text ∧ ':' ∈ text.toList) heq
    simp [Program.completion, hname] at hcolon
  | starting | pausing | resuming =>
    have htext := congrArg String.toList (Event.status.inj heq)
    simp at htext

theorem count_completion (hname : ':' ∉ program.name.toList) {said : List Event}
    (h : ∀ e ∈ said, program.IsRemark e) : said.count program.completion = 0 :=
  List.count_eq_zero.mpr fun hmem => ne_completion_of_isRemark hname (h _ hmem) rfl

/-! ## Every history -/

/-- **The life of a script, seen from outside.**  Take any program, and any calls made on a fresh
script of it that come back, in any surroundings, whatever is drawn at random and whatever the clock
shows each time it is read.

* What the script has sent out are remarks, and behind them the message that it is over, exactly if
  it has ended.  Told apart by their text, that message is there once or not at all, if the name of
  the script has no colon.
* Whatever happens next, the message is sent when the script ends, and not otherwise.
* When it has ended it wants no waking, and no call changes anything about it.
* As long as it was not started, no line of it was carried out, and nothing but that message was
  sent out. -/
theorem lifecycle_of_calls {moments : List Moment}
    (hcalls : Calls (ofProgram program settings) moments t) :
    (∃ said, (∀ e ∈ said, program.IsRemark e) ∧
        t.log.toList = said ++ if t.phase = .stopped then [program.completion] else []) ∧
      (':' ∉ program.name.toList →
        t.log.toList.count program.completion = if t.phase = .stopped then 1 else 0) ∧
      (∀ env u, Happenings env t u → Completes t u) ∧
      (t.phase = .stopped → t.wakeup? = none ∧ ∀ env call, Call.apply env call t = t) ∧
      ((∀ m ∈ moments, ∀ args, m.call ≠ .start args) →
        (∀ e ∈ t.log.toList, e = program.completion) ∧
          ∀ m ∈ moments, (m.call.runs m.env m.script).flatMap (linesFrom m.env) = []) := by
  have hfresh := sound_ofProgram program settings
  have hsound : Sound t := hfresh.calls hcalls
  obtain ⟨said, hsaid, hlog⟩ := (hcalls.completes hfresh).log
  have hending : ending (ofProgram program settings) t =
      if t.phase = .stopped then [program.completion] else [] := by
    have hfirst : (ofProgram program settings).phase ≠ .stopped := nofun
    simp only [ending, hfirst, ne_eq, not_false_eq_true, true_and]
    rfl
  rw [show (ofProgram program settings).log.toList = [] from rfl, List.nil_append, hending] at hlog
  refine ⟨⟨said, hsaid, hlog⟩, fun hname => ?_, fun env u h => h.completes hsound,
    fun hstopped => ?_, fun hstart => ?_⟩
  · rw [hlog, List.count_append, count_completion hname hsaid, Nat.zero_add]
    split
    · exact List.count_singleton_self
    · rfl
  · refine ⟨?_, fun env call => apply_of_stopped env call hstopped hsound⟩
    rw [wakeup?, (hsound.stopped hstopped).timer]
    exact ite_self _
  · obtain ⟨hunstarted, hlines⟩ := Unstarted.calls (.inl rfl) hcalls hstart
    exact ⟨fun e he => hunstarted.mem_log he, hlines⟩

/-- The calls that start the script of `watching`, tell it to stop, and end it. -/
def watcherEnd (command : String) (rest : List String) : List Moment :=
  watcherCalls command rest ++ [⟨{}, .cancel, onLine {} "Stop" (watcher command rest)⟩]

/-- A script that has jumped when it was told to stop, and was ended then, has said so once, and no
call changes anything about it. -/
theorem jumper_lifecycle :
    Calls (ofProgram (watching "goto here" ["here:", "nextroom", "echo late"]) {})
        (watcherEnd "goto here" ["here:", "nextroom", "echo late"])
        (onLine {} "Stop" (jumper "nextroom")).cancel ∧
      (onLine {} "Stop" (jumper "nextroom")).cancel.phase = .stopped ∧
      (onLine {} "Stop" (jumper "nextroom")).cancel.log.toList.count
        (.status "[Script 'watching' completed]") = 1 ∧
      ∀ env call, Call.apply env call (onLine {} "Stop" (jumper "nextroom")).cancel =
        (onLine {} "Stop" (jumper "nextroom")).cancel := by
  have hw : 0 < ({} : Env).settings.loopWindow := by decide
  have hcalls : Calls (ofProgram (watching "goto here" ["here:", "nextroom", "echo late"]) {})
      (watcherEnd "goto here" ["here:", "nextroom", "echo late"])
      (onLine {} "Stop" (jumper "nextroom")).cancel :=
    .cons (Call.returns_of_window hw _ _) (.cons (Call.returns_of_window hw _ _)
      (.cons (Call.returns_of_window hw _ _) (.nil _)))
  have hstopped := (onLine {} "Stop" (jumper "nextroom")).phase_of_cancel
  obtain ⟨-, hcount, -, hover, -⟩ := lifecycle_of_calls hcalls
  have hone := hcount (by decide)
  rw [if_pos hstopped] at hone
  exact ⟨hcalls, hstopped, hone, (hover hstopped).2⟩

end Script

end StreamScript
