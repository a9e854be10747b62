import StreamScript.Proofs.Events.Happenings
import StreamScript.Proofs.Variables

/-!
# What a script has carried out

A statement is carried out because it stands on the line in front of the script, or because
an action gives it as a command.  Either is a `Deed`.  The deeds of a call, in the order in
which they are done, are read off its orders and its runs (`Call.deeds`), and those of a
history are the deeds of its moments one after another.

Deeds are all that matters to the variables of a script: from one to the next nothing
happens to these, except that a script is given its arguments when it starts.  `Trail` says
so of a list of deeds, and `trail_calls` that the deeds of every history are such a list.
So what holds of a script that has started and outlasts the deeds so far holds in front of
the next one (`Trail.front`, `Trail.kept`).
-/

namespace StreamScript

/-- A statement that is carried out. -/
structure Deed where
  env : Env
  statement : Statement
  /-- The script in front of it. -/
  front : Script
  /-- Whether it is the command of an action, and not that of a line. -/
  byAction : Bool

namespace Deed

/-- The script that carries the statement out.  The text of a command is taken as it stands. -/
def script (d : Deed) : Script :=
  if d.byAction then d.front.setVerbatim true else d.front

/-- The script behind the statement. -/
def behind (d : Deed) : Script :=
  let t := (Script.execute d.env d.statement d.script).2
  if d.byAction then t.setVerbatim false else t

/-- The variable that is written. -/
def written? (d : Deed) : Option String :=
  Script.written? d.env d.statement d.script

end Deed

/-- What a command does, if it is understood. -/
def Order.deed? (env : Env) (o : Order) : Option Deed :=
  o.statement?.map fun statement => ⟨env, statement, o.script, true⟩

namespace Script

variable {env : Env} {s t u : Script} {ds ds' : List Deed}

/-! ## The deeds of a history -/

/-- What the line in front of a script does, if it is understood. -/
def lineDeed? (env : Env) (s : Script) : Option Deed :=
  s.nextLine?.bind fun line =>
    line.statement?.map fun statement => ⟨env, statement, s.atStatement line statement, false⟩

/-- What is done by lines within so many steps. -/
def deedsWithin (env : Env) : Nat → Script → List Deed
  | 0, _ => []
  | n + 1, s =>
      (s.lineDeed? env).toList ++
        match step env s with
        | .done _ => []
        | .again s => deedsWithin env n s

/-- What is done by lines from a state on. -/
def deedsFrom (env : Env) (s : Script) : List Deed :=
  deedsWithin env (stepBound env s) s

theorem deedsFrom_of_again (h : step env s = .again t) :
    deedsFrom env s = (s.lineDeed? env).toList ++
      deedsWithin env
        ((ticksLeft env s + jumpBound env.settings + 1) * s.walk.program.lines.size) t := by
  rw [deedsFrom, stepBound, deedsWithin, h]

/-- The orders that are given in a call. -/
def Call.orders (env : Env) : Call → Script → List Order
  | .line text, s => if s.phase = .running then s.orders env text else []
  | _, _ => []

/-- What is done in a call: first by the commands of actions, and then by lines. -/
def Call.deeds (env : Env) (call : Call) (s : Script) : List Deed :=
  (call.orders env s).filterMap (·.deed? env) ++ (call.runs env s).flatMap (deedsFrom env)

/-- What is done in a call, in the surroundings and the state in which it is made. -/
def Moment.deeds (m : Moment) : List Deed :=
  m.call.deeds m.env m.script

/-- What is done in a run is done in its surroundings. -/
theorem env_of_mem_deedsFrom {d : Deed} (h : d ∈ deedsFrom env s) : d.env = env := by
  rw [deedsFrom] at h
  generalize stepBound env s = n at h
  induction n generalizing s with
  | zero => cases h
  | succ n ih =>
    rw [deedsWithin] at h
    obtain hfirst | hrest := List.mem_append.mp h
    · obtain ⟨line, -, hline⟩ := Option.bind_eq_some_iff.mp (Option.mem_toList.mp hfirst)
      obtain ⟨statement, -, rfl⟩ := Option.map_eq_some_iff.mp hline
      rfl
    · cases hstep : step env s with
      | done t => rw [hstep] at hrest; cases hrest
      | again t => rw [hstep] at hrest; exact ih hrest

/-- What is done in a call is done in its surroundings. -/
theorem Moment.env_of_mem_deeds {m : Moment} {d : Deed} (h : d ∈ m.deeds) : d.env = m.env := by
  obtain horders | hruns := List.mem_append.mp h
  · obtain ⟨o, -, ho⟩ := List.mem_filterMap.mp horders
    obtain ⟨statement, -, rfl⟩ := Option.map_eq_some_iff.mp ho
    rfl
  · obtain ⟨t, -, ht⟩ := List.mem_flatMap.mp hruns
    exact env_of_mem_deedsFrom ht

/-! ## In between -/

/-- Whether a script has started and not ended. -/
def IsLive (s : Script) : Prop :=
  s.phase = .running ∨ s.phase = .paused

/-- Something happens to a script, but neither to its variables nor so that it starts. -/
structure Idles (s t : Script) : Prop extends SameVars s t where
  live : t.IsLive → s.IsLive

namespace Idles

theorem of_phase (h : SameVars s t) (hphase : t.phase = s.phase) : Idles s t where
  toSameVars := h
  live hlive := by rwa [IsLive, hphase] at hlive

theorem refl (s : Script) : Idles s s :=
  of_phase (.refl s) rfl

theorem trans (h : Idles s t) (h' : Idles t u) : Idles s u where
  toSameVars := h.toSameVars.trans h'.toSameVars
  live hlive := h.live (h'.live hlive)

theorem of_scopes (h : t.scopes = s.scopes) (hphase : t.phase = s.phase) : Idles s t :=
  of_phase (.of_scopes h) hphase

theorem debug (level : DebugLevel) (message : String) (s : Script) :
    Idles s (s.debug level message) :=
  of_phase (s.sameVars_debug level message) (phase_debug s level message)

theorem setCaptured (groups : Captures) (s : Script) : Idles s (s.setCaptured groups) :=
  of_phase (s.sameVars_setCaptured groups) rfl

theorem clearWaits (s : Script) : Idles s s.clearWaits :=
  of_scopes rfl rfl

theorem cancel (s : Script) : Idles s s.cancel where
  toSameVars := s.sameVars_cancel
  live hlive := by
    rw [IsLive, phase_of_cancel] at hlive
    exact absurd hlive (by decide)

end Idles

/-- Deeds are done one after another.  In between, a script may be started, and otherwise nothing
happens to its variables. -/
inductive Trail : Script → List Deed → Script → Prop where
  | nil (s : Script) : Trail s [] s
  | idle {s t u : Script} {ds : List Deed} (h : Idles s t) (rest : Trail t ds u) : Trail s ds u
  | begin {s u : Script} {ds : List Deed} (args : List String) (h : s.phase = .notStarted)
      (rest : Trail (s.begun args) ds u) : Trail s ds u
  | cons {d : Deed} {u : Script} {ds : List Deed} (h : d.front.phase = .running)
      (rest : Trail d.behind ds u) : Trail d.front (d :: ds) u

theorem Idles.trail (h : Idles s t) : Trail s [] t :=
  .idle h (.nil t)

namespace Trail

theorem single {d : Deed} (h : d.front.phase = .running) : Trail d.front [d] d.behind :=
  .cons h (.nil _)

theorem append (h : Trail s ds t) (h' : Trail t ds' u) : Trail s (ds ++ ds') u := by
  induction h with
  | nil => exact h'
  | idle hidle _ ih => exact .idle hidle (ih h')
  | begin args hphase _ ih => exact .begin args hphase (ih h')
  | cons hphase _ ih => exact .cons hphase (ih h')

theorem and (h : Trail s ds t) (h' : Idles t u) : Trail s ds u := by
  rw [← List.append_nil ds]
  exact h.append h'.trail

/-- A deed is done by a running script, in front of which the deeds before it are done. -/
theorem front {before after : List Deed} {d : Deed} (h : Trail s (before ++ d :: after) u) :
    Trail s before d.front ∧ d.front.phase = .running := by
  generalize hds : before ++ d :: after = ds at h
  induction h generalizing before with
  | nil => exact absurd hds (List.append_ne_nil_of_right_ne_nil _ (List.cons_ne_nil _ _))
  | idle hidle _ ih => exact ⟨.idle hidle (ih hds).1, (ih hds).2⟩
  | begin args hphase _ ih => exact ⟨.begin args hphase (ih hds).1, (ih hds).2⟩
  | cons hphase _ ih =>
    cases before with
    | nil =>
      obtain ⟨rfl, -⟩ := List.cons.inj hds
      exact ⟨.nil _, hphase⟩
    | cons first before =>
      obtain ⟨rfl, hrest⟩ := List.cons.inj hds
      exact ⟨.cons hphase (ih hrest).1, (ih hrest).2⟩

/-- What holds of a script that starts, and is kept by all deeds and by what happens in between,
holds behind the last of them. -/
theorem kept {P : Script → Prop} (idle : ∀ {s t}, Idles s t → P s → P t)
    (begin : ∀ {s} args, s.phase = .notStarted → P s → P (s.begun args))
    (deed : ∀ d ∈ ds, d.front.phase = .running → P d.front → P d.behind)
    (h : Trail s ds t) (hs : P s) : P t := by
  induction h with
  | nil => exact hs
  | idle hidle _ ih => exact ih deed (idle hidle hs)
  | begin args hphase _ ih => exact ih deed (begin args hphase hs)
  | @cons d u ds hphase _ ih =>
    obtain ⟨hfirst, hrest⟩ := List.forall_mem_cons.mp deed
    exact ih hrest (hfirst hphase hs)

end Trail

/-! ## Lines -/

theorem trail_runLine (env : Env) {line : Line} (h : s.nextLine? = some line) :
    Trail s (s.lineDeed? env).toList (runLine env s.behindLine).2 := by
  have hphase := phase_of_nextLine? h
  rw [lineDeed?, h, Option.bind_some]
  cases hstatement : line.statement? with
  | none =>
    rw [runLine_of_no_statement env h hstatement]
    exact Idles.trail (.of_scopes rfl rfl)
  | some statement =>
    have hat := (sameButPlace_atStatement line statement s).phase
    have hidle : Idles s (s.atStatement line statement) := by
      refine .of_phase ?_ hat
      have hbehind : SameVars s (s.behindLine.remember line) := .of_scopes rfl
      exact hbehind.trans ((keptByConditionals_sameVars env).closeSingle line statement _)
    rw [runLine_of_statement env h hstatement]
    exact .idle hidle (.single (d := ⟨env, statement, _, false⟩) (hat.trans hphase))

theorem idles_ofSkip (r : Bool × Script) : Idles r.2 (ofSkip r).script := by
  obtain ⟨closed, s⟩ := r
  cases closed with
  | true => exact .refl s
  | false => exact (Idles.of_phase (s.sameVars_report _) rfl).trans (.cancel _)

theorem idles_proceed (r : Flow × Script) : Idles r.2 (proceed r).script := by
  obtain ⟨flow, s⟩ := r
  cases flow with
  | next => exact .refl s
  | wait => exact .of_scopes rfl rfl
  | exit => exact .cancel s
  | skipBlock =>
    have hskip : Idles s s.skipBlock.2 := by
      rw [skipBlock_eq]
      exact .of_scopes rfl rfl
    exact hskip.trans (idles_ofSkip _)
  | skipChain =>
    have hskip : Idles s s.skipChain.2 := .of_scopes rfl rfl
    exact hskip.trans (idles_ofSkip _)

theorem trail_step (env : Env) (s : Script) :
    Trail s (s.lineDeed? env).toList (step env s).script := by
  cases hline : s.nextLine? with
  | some line =>
    rw [step_of_nextLine? env hline]
    exact (trail_runLine env hline).and (idles_proceed _)
  | none =>
    rw [lineDeed?, hline]
    refine Idles.trail ?_
    cases hphase : s.phase with
    | notStarted | stopped =>
      rw [step, hphase]
      exact .refl s
    | paused =>
      rw [step_of_paused env hphase]
      exact .of_scopes rfl rfl
    | running =>
      rw [nextLine?, if_pos hphase, Array.getElem?_eq_none_iff] at hline
      rw [step_of_advance?_eq_none env hphase (if_neg (Nat.not_lt.mpr hline))]
      exact .cancel s

theorem trail_steps (env : Env) (n : Nat) (s : Script) :
    Trail s (deedsWithin env n s) (steps env n s) := by
  induction n generalizing s with
  | zero => exact .nil s
  | succ n ih =>
    have hstep := trail_step env s
    rw [steps, deedsWithin]
    cases h : step env s with
    | done t =>
      rw [h] at hstep
      exact hstep.append (.nil t)
    | again t =>
      rw [h] at hstep
      exact hstep.append (ih t)

theorem trail_run (env : Env) (s : Script) : Trail s (deedsFrom env s) (run env s) :=
  trail_steps env _ s

theorem Plan.trail {plan : Plan} (h : Trail s ds plan.script) :
    Trail s (ds ++ plan.runs.flatMap (deedsFrom env)) (plan.carryOut env) := by
  cases plan with
  | rest t => exact h.append (.nil t)
  | runOn t =>
    rw [runs, List.flatMap_singleton]
    exact h.append (trail_run env t)

/-! ## Commands -/

theorem trail_order (env : Env) (o : Order) (h : o.script.phase = .running) :
    Trail o.script (o.deed? env).toList (o.outcome env).2 := by
  rw [Order.deed?, Order.outcome]
  cases o.statement? with
  | none => exact Idles.trail (.of_scopes rfl rfl)
  | some statement => exact .single (d := ⟨env, statement, o.script, true⟩) h

theorem trail_runCommands (env : Env) (jumped : Bool) (commands : List String)
    (h : s.phase = .running) :
    Trail s ((ordersOf env commands s).filterMap (·.deed? env))
      (runCommands env jumped commands s).2 := by
  induction commands generalizing jumped s with
  | nil => exact .nil s
  | cons command rest ih =>
    have hfirst := trail_order env (s.order env command) h
    have hphase : ((s.order env command).outcome env).2.phase = .running :=
      ((s.order env command).phase_outcome env).trans h
    have hcons (orders : List Order) :
        (s.order env command :: orders).filterMap (·.deed? env) =
          ((s.order env command).deed? env).toList ++ orders.filterMap (·.deed? env) := by
      rw [List.filterMap_cons]
      cases (s.order env command).deed? env <;> rfl
    rw [runCommands, runCommand_eq, ordersOf, hcons]
    cases (s.order env command).reaction env with
    | ended => exact hfirst.append (.nil _)
    | jumped => exact hfirst.append (ih true hphase)
    | stayed => exact hfirst.append (ih jumped hphase)

theorem idles_setOff (action : Action) (caps : Captures) (s : Script) :
    Idles s (s.setOff action caps) := by
  have hscopes : Idles s { s with
      scopes := { s.scopes with actionCaptured := Scope.indexed caps } } :=
    .of_phase ⟨rfl, rfl, rfl⟩ rfl
  exact hscopes.trans (.debug .actions _ _)

theorem trail_trigger (env : Env) (line : String) (jumped : Bool) (actions : List Action)
    (h : s.phase = .running) :
    Trail s ((ordersOn env line actions s).filterMap (·.deed? env))
      (trigger env line jumped actions s).2 := by
  induction actions generalizing jumped s with
  | nil => exact .nil s
  | cons action rest ih =>
    cases hmatch : env.matcher.regex line
        (s.scopes.substituteAction env.globals action.pattern) with
    | none =>
      rw [trigger, ordersOn, hmatch]
      exact ih jumped h
    | some caps =>
      have hoff := idles_setOff action caps s
      have hphase := (sameStand_setOff action caps s).phase.trans h
      have hcommands := trail_runCommands env false (Action.splitCommands action.command) hphase
      obtain ⟨-, hrunning⟩ :=
        happenings_runCommands env false (Action.splitCommands action.command) hphase
      rw [trigger_cons_of_some jumped hmatch rest, ordersOn, hmatch]
      dsimp only
      rw [List.filterMap_append]
      split
      · exact .idle hoff (hcommands.append (.nil _))
      · exact .idle hoff (hcommands.append (ih _ hrunning))

theorem trail_reactPlan (env : Env) (line : String) (h : s.phase = .running) :
    Trail s ((s.orders env line).filterMap (·.deed? env)) (s.reactPlan env line).script := by
  have htrigger := trail_trigger env line false (s.actions.filter (·.enabled)) h
  rw [orders, reactPlan, react]
  generalize trigger env line false (s.actions.filter (·.enabled)) s = r at htrigger ⊢
  obtain ⟨reaction, t⟩ := r
  cases reaction with
  | ended => exact htrigger.and (.cancel t)
  | jumped | stayed => exact htrigger

/-! ## Calls -/

theorem idles_matchPlan (env : Env) (label : String) (caps : Captures) (s : Script) :
    Idles s (s.matchPlan env label caps).script := by
  have hgoto : Idles s (goto env label (.groups caps) (s.debug .waits ("match " ++ label))).2 :=
    (Idles.debug .waits _ s).trans (.of_phase (sameVars_goto _ env label _) (phase_goto ..))
  rw [matchPlan]
  generalize goto env label (.groups caps) (s.debug .waits ("match " ++ label)) = r at hgoto ⊢
  obtain ⟨flow, t⟩ := r
  cases flow with
  | exit => exact hgoto.trans (.cancel t)
  | next | wait | skipBlock | skipChain => exact hgoto

theorem idles_heedPlan (env : Env) (line : String) (s : Script) :
    Idles s (s.heedPlan env line).script := by
  rw [heedPlan]
  split
  · exact .refl s
  · split
    · split
      · exact .clearWaits s
      · exact .refl s
    · split
      · next caps _ => exact (Idles.setCaptured caps s).trans (.clearWaits _)
      · exact .refl s
    · split
      · next label caps _ => exact idles_matchPlan env label caps s
      · exact .refl s
    · exact .refl s

theorem idles_matchedPlan (env : Env) (caps : Captures) (s : Script) :
    Idles s (s.matchedPlan env caps).script := by
  rw [matchedPlan]
  split
  · exact .refl s
  · split
    · exact .refl s
    · split
      · next label _ _ => exact idles_matchPlan env label caps s
      · exact .refl s
    · exact (Idles.setCaptured caps s).trans (.clearWaits _)

theorem idles_promptPlan (env : Env) (s : Script) : Idles s (s.promptPlan env).script := by
  rw [promptPlan]
  split
  · exact .refl s
  · split
    · exact .clearWaits s
    · next condition _ =>
      have hdecide : Idles s (s.decideCondition env condition).2 :=
        .of_phase (s.sameVars_decideCondition env condition)
          (s.sameStand_decideCondition env condition).phase
      split
      · next t heq =>
        rw [heq] at hdecide
        exact hdecide.trans (.clearWaits t)
      · next t heq =>
        rw [heq] at hdecide
        exact hdecide
    · exact .refl s

theorem idles_roomPlan (s : Script) : Idles s s.roomPlan.script := by
  rw [roomPlan]
  split
  · exact .refl s
  · split
    · exact .clearWaits s
    · exact .refl s

theorem idles_timerPlan (env : Env) (instant : Nat) (s : Script) :
    Idles s (s.timerPlan env instant).script := by
  have hout : Idles s { s with timer? := none } := .of_scopes rfl rfl
  rw [timerPlan]
  split
  · exact .refl s
  · split
    · exact .refl s
    · dsimp only
      split
      · split
        · exact (hout.trans (.debug .waits _ _)).trans (.of_scopes rfl rfl)
        · exact hout
      · exact hout
      · exact (hout.trans (.debug .waits _ _)).trans (.clearWaits _)

theorem idles_pause (s : Script) : Idles s s.pause := by
  rw [pause]
  split
  · next hphase => exact ⟨.of_scopes rfl, fun _ => .inl hphase⟩
  · exact .refl s

theorem idles_resumePlan (s : Script) : Idles s s.resumePlan.script := by
  rw [resumePlan]
  split
  · next hphase =>
    dsimp only
    split <;> exact ⟨.of_scopes rfl, fun _ => .inr hphase⟩
  · exact .refl s

theorem trail_startPlan (args : List String) (s : Script) :
    Trail s [] (s.startPlan args).script := by
  rw [startPlan]
  split
  · next hphase => exact .begin args hphase (.nil _)
  · exact .nil s

/-- **Between the deeds of a call nothing happens to the variables of a script**, except that it is
started. -/
theorem trail_apply (env : Env) (call : Call) (s : Script) :
    Trail s (call.deeds env s) (call.apply env s) := by
  rw [call.apply_eq, Call.deeds]
  cases call with
  | line text =>
    rw [Call.plan, Call.orders, Call.runs, linePlan, runsOn]
    by_cases hphase : s.phase = .running
    · rw [if_pos hphase, if_pos hphase, if_neg (not_not_intro hphase), List.flatMap_append,
        ← List.append_assoc]
      exact Plan.trail ((Plan.trail (trail_reactPlan env text hphase)).and
        (idles_heedPlan env text _))
    · rw [if_neg hphase, if_neg hphase, if_pos hphase]
      exact .nil s
  | start args => exact Plan.trail (trail_startPlan args s)
  | next =>
    have hplan : Trail s [] (Plan.runOn s).script := .nil s
    exact Plan.trail hplan
  | pause =>
    have hplan : Trail s [] (Plan.rest s.pause).script := (idles_pause s).trail
    exact Plan.trail hplan
  | resume => exact Plan.trail (idles_resumePlan s).trail
  | cancel =>
    have hplan : Trail s [] (Plan.rest s.cancel).script := (Idles.cancel s).trail
    exact Plan.trail hplan
  | matched caps => exact Plan.trail (idles_matchedPlan env caps s).trail
  | prompt => exact Plan.trail (idles_promptPlan env s).trail
  | roomChange => exact Plan.trail (idles_roomPlan s).trail
  | timer instant => exact Plan.trail (idles_timerPlan env instant s).trail

/-- **What has been done in a history** leads from its beginning to its end. -/
theorem trail_calls {moments : List Moment} (h : Calls s moments t) :
    Trail s (moments.flatMap Moment.deeds) t := by
  induction h with
  | nil s => exact .nil s
  | @cons env call s t moments _ _ ih =>
    rw [List.flatMap_cons]
    exact (trail_apply env call s).append ih

end Script

end StreamScript
