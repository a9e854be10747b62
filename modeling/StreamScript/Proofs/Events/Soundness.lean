import StreamScript.Proofs.Events.Happenings

/-!
# What always holds of a script

A script keeps places of its program, saved ones among them, a trace of bounded
length, a switch for verbatim text and a mark to run on, and when it has ended nothing
should be left armed.  `Sound` puts together what holds of all these in every state
that calls can lead to.

Most happenings leave the life of a script alone: it stays in its phase, and what it
says are remarks (`Lives`).  The few others are turns of its life (`Turn`), and each is
looked at by itself.  With that, what is sound stays sound whatever happens
(`Sound.happens`), which covers the states in the midst of a call as well: an entry that
is looked up there is found, and a block that is passed over ends in the program.
-/

namespace StreamScript

namespace Script

variable {env : Env} {s t u : Script} {n : Nat}

/-! ## Happenings and the life of a script -/

/-- Two states in the same phase of a script that has not ended, the second of which has added
remarks to the log of the first, and a line to its trace at most. -/
structure Lives (s t : Script) : Prop where
  live : s.phase ≠ .stopped
  phase : t.phase = s.phase
  program : t.walk.program = s.walk.program
  resumePending : t.resumePending = s.resumePending
  verbatim : t.scopes.verbatim = s.scopes.verbatim
  trace : t.trace = s.trace ∨ ∃ line ∈ s.walk.program.lines, t.trace = (s.remember line).trace
  tells : s.Traced → Tells s.walk.program s t

theorem Speaks.lives (h : Speaks s t) (live : s.phase ≠ .stopped) (phase : t.phase = s.phase) :
    Lives s t :=
  ⟨live, phase, h.program, h.resumePending, h.verbatim, .inl h.trace, h.tells⟩

/-- A turn in the life of a script. -/
inductive Turn (s : Script) : Script → Prop where
  | begin (args : List String) (h : s.phase = .notStarted) : Turn s (s.begun args)
  | pause (h : s.phase = .running) : Turn s s.pause
  | wake (h : s.phase = .paused) : Turn s s.woken
  | postpone (h : s.phase = .paused) : Turn s { s with resumePending := true }
  | cancel : Turn s s.cancel

theorem pause_of_running (h : s.phase = .running) :
    s.pause = { s with phase := .paused }.status ("[Pausing '" ++ s.name ++ "']") := by
  rw [Script.pause, h]

/-- The trace is shown when a script runs in circles, so its lines have to be remarks. -/
theorem traced_remember {line : Line} (h : s.Traced) (hline : line ∈ s.walk.program.lines) :
    (s.remember line).Traced := by
  have hkept : ∀ entry ∈ (if s.trace.length = traceLength then s.trace.tail else s.trace),
      s.walk.program.IsRemark (.status entry) := by
    intro entry hentry
    split at hentry
    · exact h entry (List.mem_of_mem_tail hentry)
    · exact h entry hentry
  exact List.forall_mem_append.mpr
    ⟨hkept, List.forall_mem_singleton.mpr (.message (.line hline) line.text)⟩

theorem lives_runLine (env : Env) {line : Line} (h : s.nextLine? = some line) :
    Lives s (runLine env s.behindLine).2 := by
  have hline := getElem?_of_nextLine? h
  have hspeaks : Speaks (s.behindLine.remember line) (runLine env s.behindLine).2 := by
    cases hstatement : line.statement? with
    | none =>
      rw [runLine_of_no_statement env h hstatement]
      exact speaks_report _ _
    | some statement =>
      rw [runLine_of_statement env h hstatement]
      exact (speaks_closeSingle _ line statement).trans (speaks_execute env statement _)
  have hmem : line ∈ s.walk.program.lines := Array.mem_of_getElem? hline
  exact {
    live := ne_stopped_of_running (phase_of_nextLine? h)
    phase := phase_runLine env s.behindLine
    program := hspeaks.program
    resumePending := hspeaks.resumePending
    verbatim := hspeaks.verbatim
    trace := .inr ⟨line, hmem, hspeaks.trace⟩
    tells := fun hs => hspeaks.tells (traced_remember (s := s.behindLine) hs hmem) }

theorem lives_outcome (env : Env) {o : Order} (h : o.script.phase = .running)
    (hverbatim : o.script.scopes.verbatim = false) : Lives o.script (o.outcome env).2 := by
  have hlive := ne_stopped_of_running h
  refine Speaks.lives ?_ hlive (o.phase_outcome env)
  rw [Order.outcome]
  split
  · exact o.script.speaks_report _
  · next statement _ =>
    have hexecute := speaks_execute env statement (o.script.setVerbatim true)
    exact ⟨hexecute.program, hexecute.resumePending, hexecute.trace, hverbatim.symm,
      hexecute.tells⟩

theorem lives_withWalk {walk : Walk} (h : s.phase = .running)
    (hprogram : walk.program = s.walk.program) : Lives s { s with walk := walk } :=
  (s.speaks_withWalk hprogram).lives (ne_stopped_of_running h) rfl

/-- **Whatever happens is a turn in the life of a script, or leaves its life alone.** -/
theorem Happens.lives_or_turn (h : Happens env s n t) (hverbatim : s.scopes.verbatim = false) :
    Lives s t ∨ Turn s t := by
  have hsilent {u : Script} (hs : Speaks s u) (hl : s.phase ≠ .stopped)
      (hp : u.phase = s.phase) : Lives s u ∨ Turn s u :=
    .inl (hs.lives hl hp)
  cases h with
  | begin args h => exact .inr (.begin args h)
  | pause h => exact .inr (.pause h)
  | wake h => exact .inr (.wake h)
  | postpone h => exact .inr (.postpone h)
  | cancel => exact .inr .cancel
  | line h => exact .inl (lives_runLine env h)
  | skipBlock h =>
    rw [skipBlock_eq]
    exact .inl (lives_withWalk h (forward_skipBlock s).program)
  | skipChain h => exact .inl (lives_withWalk h s.walk.next_le_of_skipChain.1)
  | calm h => exact hsilent (.silent rfl rfl rfl rfl rfl) (ne_stopped_of_running h) rfl
  | order o h => exact .inl (lives_outcome env h hverbatim)
  | entry label caps h =>
    exact hsilent (s.speaks_goto env label _) (ne_stopped_of_running h) (phase_goto ..)
  | note h hstand hspeaks => exact hsilent hspeaks h hstand.phase
  | clearWaits h => exact hsilent s.speaks_clearWaits h rfl
  | setTimer timer? h => exact hsilent (.silent rfl rfl rfl rfl rfl) h rfl

/-! ## Soundness -/

/-- Nothing is armed and nothing is open. -/
structure Disarmed (s : Script) : Prop where
  wait : s.wait? = none
  timer : s.timer? = none
  targets : s.targets = []
  matchSet : s.matchSet? = none
  actions : s.actions = []
  gosubs : s.gosubs = []

/-- What always holds of a script. -/
structure Sound (s : Script) : Prop extends InRange s where
  traceLength : s.trace.length ≤ Script.traceLength
  traced : s.Traced
  verbatim : s.scopes.verbatim = false
  resumePending : s.resumePending = true → s.phase = .paused
  stopped : s.phase = .stopped → s.Disarmed

theorem sound_ofProgram (program : Program) (settings : Settings) :
    Sound (ofProgram program settings) where
  walk := ⟨Nat.zero_le _, List.forall_mem_nil _⟩
  gosubs := List.forall_mem_nil _
  matchSet := nofun
  traceLength := Nat.zero_le _
  traced := List.forall_mem_nil _
  verbatim := rfl
  resumePending := nofun
  stopped := nofun

theorem length_trace_remember (line : Line) (h : s.trace.length ≤ traceLength) :
    (s.remember line).trace.length ≤ traceLength := by
  have hkept : (if s.trace.length = traceLength then s.trace.tail else s.trace).length <
      traceLength := by
    split
    · next heq =>
      rw [List.length_tail, heq]
      decide
    · next hne => exact Nat.lt_of_le_of_ne h hne
  rw [remember, List.length_append]
  exact hkept

namespace Sound

theorem lives (h : Sound s) (hlives : Lives s t) (hplaces : InRange t) : Sound t where
  toInRange := hplaces
  traceLength := by
    obtain htrace | ⟨line, -, htrace⟩ := hlives.trace
    · rw [htrace]
      exact h.traceLength
    · rw [htrace]
      exact length_trace_remember line h.traceLength
  traced := by
    obtain htrace | ⟨line, hline, htrace⟩ := hlives.trace
    · rw [Traced, htrace, hlives.program]
      exact h.traced
    · rw [Traced, htrace, hlives.program]
      exact traced_remember h.traced hline
  verbatim := hlives.verbatim.trans h.verbatim
  resumePending := by
    rw [hlives.resumePending, hlives.phase]
    exact h.resumePending
  stopped hstopped := absurd (hlives.phase.symm.trans hstopped) hlives.live

theorem turn (h : Sound s) (hturn : Turn s t) (hplaces : InRange t) : Sound t := by
  have hlive (hne : s.phase ≠ .paused) : s.resumePending = true → t.phase = .paused :=
    fun hpending => absurd (h.resumePending hpending) hne
  cases hturn with
  | begin args hphase =>
    exact ⟨hplaces, h.traceLength, h.traced, h.verbatim, hlive (by rw [hphase]; exact nofun),
      nofun⟩
  | pause hphase =>
    rw [pause_of_running hphase] at hplaces ⊢
    exact ⟨hplaces, h.traceLength, h.traced, h.verbatim, fun _ => rfl, nofun⟩
  | wake => exact ⟨hplaces, h.traceLength, h.traced, h.verbatim, nofun, nofun⟩
  | postpone hphase =>
    exact ⟨hplaces, h.traceLength, h.traced, h.verbatim, fun _ => hphase,
      fun hstopped => nomatch hphase.symm.trans hstopped⟩
  | cancel =>
    unfold Script.cancel at hplaces ⊢
    split
    · exact h
    · next hnot =>
      rw [if_neg hnot] at hplaces
      exact ⟨hplaces, h.traceLength, h.traced, h.verbatim, nofun,
        fun _ => ⟨rfl, rfl, rfl, rfl, rfl, rfl⟩⟩

/-- **What is sound stays sound, whatever happens.** -/
theorem happens (h : Sound s) (hhappens : Happens env s n t) : Sound t := by
  have hplaces := h.toInRange.happens hhappens
  obtain hlives | hturn := hhappens.lives_or_turn h.verbatim
  · exact h.lives hlives hplaces
  · exact h.turn hturn hplaces

theorem happenings (h : Sound s) (hhappenings : Happenings env s t) : Sound t := by
  induction hhappenings with
  | refl => exact h
  | tail _ hlast ih =>
    obtain ⟨n, hhappens⟩ := hlast
    exact ih.happens hhappens

theorem apply (h : Sound s) (env : Env) (call : Call) : Sound (call.apply env s) :=
  h.happenings (happenings_apply env call s)

theorem calls {moments : List Moment} (h : Sound s) (hcalls : Calls s moments t) : Sound t := by
  induction hcalls with
  | nil => exact h
  | cons _ _ ih => exact ih (h.apply _ _)

end Sound

/-! ## The number of open subroutines -/

theorem Happenings.length_gosubs_le (h : Happenings env s t)
    (hle : s.gosubs.length ≤ env.settings.maxGosubs) :
    t.gosubs.length ≤ env.settings.maxGosubs := by
  induction h with
  | refl => exact hle
  | tail _ hlast ih =>
    obtain ⟨n, hhappens⟩ := hlast
    exact Nat.le_trans hhappens.length_gosubs_le (Nat.max_le.mpr ⟨ih, Nat.le_refl _⟩)

theorem Calls.length_gosubs_le {settings : Settings} {moments : List Moment}
    (h : Calls s moments t) (hsettings : ∀ m ∈ moments, m.env.settings = settings)
    (hle : s.gosubs.length ≤ settings.maxGosubs) : t.gosubs.length ≤ settings.maxGosubs := by
  induction h with
  | nil => exact hle
  | @cons env call s _ _ _ _ ih =>
    obtain ⟨hfirst, hrest⟩ := List.forall_mem_cons.mp hsettings
    have hstep := happenings_apply env call s
    refine ih hrest ?_
    rw [← show env.settings = settings from hfirst] at hle ⊢
    exact hstep.length_gosubs_le hle

/-! ## Every state that calls lead to -/

/-- **What holds in every state that calls can lead to.**  Take any program, and any calls made on a
fresh script of it that come back, in any surroundings, whatever is drawn at random and whatever the
clock shows each time it is read.  Every place that the script keeps exists, the saved ones
included; its trace is no longer than it should be; text is not taken verbatim; it is marked to run
on only while it is paused; and when it has ended nothing is armed or open.  With the same settings
throughout, no more subroutines are open than the settings allow.  And whatever happens next, also
in the midst of a call: an entry that a line satisfies is found, and passing over a block ends in
the program. -/
theorem sound_of_calls {program : Program} {settings : Settings} {moments : List Moment}
    (hcalls : Calls (ofProgram program settings) moments t) :
    Sound t ∧
      ((∀ m ∈ moments, m.env.settings = settings) → t.gosubs.length ≤ settings.maxGosubs) ∧
      ∀ env u, Happenings env t u →
        (∀ line, findMatch? env line u = none ↔ u.NothingMatches env line) ∧
          u.walk.skipBlock.2.InRange := by
  have hsound : Sound t := (sound_ofProgram program settings).calls hcalls
  refine ⟨hsound, fun hsettings => hcalls.length_gosubs_le hsettings (Nat.zero_le _), ?_⟩
  intro env u hhappenings
  have hplaces := (hsound.happenings hhappenings).toInRange
  exact ⟨fun line => hplaces.findMatch?_eq_none_iff, hplaces.walk.skipBlock⟩

/-- A script that has jumped when it was told to stop is sound, and no line satisfies an entry of it
unnoticed. -/
theorem jumper_sound :
    Calls (ofProgram (watching "goto here" ["here:", "nextroom", "echo late"]) {})
        (watcherCalls "goto here" ["here:", "nextroom", "echo late"])
        (onLine {} "Stop" (jumper "nextroom")) ∧
      Sound (onLine {} "Stop" (jumper "nextroom")) ∧
      (onLine {} "Stop" (jumper "nextroom")).gosubs.length ≤ 100 ∧
      ∀ line, findMatch? {} line (onLine {} "Stop" (jumper "nextroom")) = none ↔
        (onLine {} "Stop" (jumper "nextroom")).NothingMatches {} line := by
  have hcalls := calls_watcher "goto here" ["here:", "nextroom", "echo late"]
  have hsettings : ∀ m ∈ watcherCalls "goto here" ["here:", "nextroom", "echo late"],
      m.env.settings = {} := by
    rw [watcherCalls, List.forall_mem_cons, List.forall_mem_singleton]
    exact ⟨rfl, rfl⟩
  obtain ⟨hsound, hgosubs, hnext⟩ := sound_of_calls hcalls
  exact ⟨hcalls, hsound, hgosubs hsettings, (hnext {} _ (.refl _)).1⟩

end Script

end StreamScript
