import StreamScript.Proofs.Events.Orders
import StreamScript.Proofs.Runs

/-!
# How a script heeds a line

A line that comes in is heeded twice: it sets off actions, and then it may end a
wait.  Either can make lines of the script run, and by the time the second is
tried the first may have left the script waiting for something else.

Both are told here as a `Plan`, which says what is left to do once the line has
been looked at: nothing, or to run on from some state.  `onLine_eq` joins the two
plans to the call, `runsOn` lists the states from which it makes the script run,
and `linesRunOn` the lines of the script that are run in it.

What a run arms is still armed when the call returns, with one exception: the wait
that the script has come to behind the jump of an action is tried on the very line
that set the action off (`armed_stays_iff`).
-/

namespace StreamScript

namespace Script

variable {env : Env} {line : String} {s t u : Script}

/-! ## Plans -/

/-- What is left to do once a script has been called: nothing, or to run on. -/
inductive Plan where
  | rest (s : Script)
  | runOn (s : Script)

namespace Plan

/-- The script when all has been done. -/
def carryOut (env : Env) : Plan → Script
  | .rest s => s
  | .runOn s => run env s

/-- The states from which lines are to be run. -/
def runs : Plan → List Script
  | .rest _ => []
  | .runOn s => [s]

end Plan

/-- What is left to do about the actions that a line sets off. -/
def reactPlan (env : Env) (line : String) (s : Script) : Plan :=
  match s.react env line with
  | (.ended, s) => .rest s.cancel
  | (.jumped, s) => .runOn s
  | (.stayed, s) => .rest s

theorem runActions_eq (env : Env) (line : String) (s : Script) :
    runActions env line s = (s.reactPlan env line).carryOut env := by
  rw [reactPlan, runActions, react]
  rcases trigger env line false (s.actions.filter (·.enabled)) s with ⟨reaction, t⟩
  cases reaction <;> rfl

/-- What is left to do about an entry that was matched. -/
def matchPlan (env : Env) (label : String) (caps : Captures) (s : Script) : Plan :=
  match goto env label (.groups caps) (s.debug .waits ("match " ++ label)) with
  | (.exit, s) => .rest s.cancel
  | (_, s) => .runOn s

theorem resolveMatch_eq (env : Env) (label : String) (caps : Captures) (s : Script) :
    resolveMatch env label caps s = (s.matchPlan env label caps).carryOut env := by
  rw [resolveMatch, matchPlan]
  rcases goto env label (.groups caps) (s.debug .waits ("match " ++ label)) with ⟨flow, t⟩
  cases flow <;> rfl

/-- What is left to do about the wait of a script when a line comes in. -/
def heedPlan (env : Env) (line : String) (s : Script) : Plan :=
  if s.phase ≠ .running then .rest s
  else
    match s.wait? with
    | some (.text target) =>
        if (env.matcher.literal line target).isSome then .runOn s.clearWaits else .rest s
    | some (.regex pattern) =>
        match env.matcher.regex line pattern with
        | some caps => .runOn (s.setCaptured caps).clearWaits
        | none => .rest s
    | some .someMatch =>
        match findMatch? env line s with
        | some (label, caps) => s.matchPlan env label caps
        | none => .rest s
    | _ => .rest s

/-- **A line is heeded twice**: by the actions it sets off, and by the wait that they leave. -/
theorem onLine_eq (env : Env) (line : String) (h : s.phase = .running) :
    onLine env line s =
      (((s.reactPlan env line).carryOut env).heedPlan env line).carryOut env := by
  rw [onLine, if_neg (not_not_intro h), ← runActions_eq, heedPlan]
  dsimp only
  split
  · rfl
  · cases (runActions env line s).wait? with
    | none => rfl
    | some wait =>
      cases wait with
      | text target =>
        dsimp only
        split <;> rfl
      | regex pattern =>
        dsimp only
        cases env.matcher.regex line pattern <;> rfl
      | someMatch =>
        dsimp only
        cases findMatch? env line (runActions env line s) with
        | none => rfl
        | some found => exact resolveMatch_eq env found.1 found.2 _
      | prompt | holds | roomChange => rfl

/-! ## Lines that a script waits for -/

/-- Whether a line is what a script waits for. -/
def isSatisfiedBy (env : Env) (line : String) (s : Script) : Bool :=
  match s.wait? with
  | some (.text target) => (env.matcher.literal line target).isSome
  | some (.regex pattern) => (env.matcher.regex line pattern).isSome
  | some .someMatch => (findMatch? env line s).isSome
  | _ => false

/-- A line that a script does not wait for leaves it as it is. -/
theorem heedPlan_of_not_satisfied (h : s.isSatisfiedBy env line = false) :
    s.heedPlan env line = .rest s := by
  rw [heedPlan]
  split
  · rfl
  · rw [isSatisfiedBy] at h
    cases hwait : s.wait? with
    | none => rfl
    | some wait =>
      rw [hwait] at h
      cases wait with
      | text target =>
        dsimp only at h ⊢
        rw [h, if_neg Bool.false_ne_true]
      | regex pattern =>
        dsimp only at h ⊢
        rw [Option.isSome_eq_false_iff, Option.isNone_iff_eq_none] at h
        rw [h]
      | someMatch =>
        dsimp only at h ⊢
        rw [Option.isSome_eq_false_iff, Option.isNone_iff_eq_none] at h
        rw [h]
      | prompt | holds | roomChange => rfl

theorem phase_of_cancel (s : Script) : s.cancel.phase = .stopped := by
  unfold cancel
  split
  · next h => simpa [isStopped] using h
  · rfl

/-- Whether a script that has got what it waited for runs on, or has ended. -/
def Plan.GoesOn (plan : Plan) : Prop :=
  (∃ t, plan = .runOn t) ∨ ∃ t, plan = .rest t ∧ t.phase = .stopped

/-- An entry that was matched makes the script run on, or end. -/
theorem goesOn_matchPlan (env : Env) (label : String) (caps : Captures) (s : Script) :
    (s.matchPlan env label caps).GoesOn := by
  rw [matchPlan]
  split
  · next t _ => exact .inr ⟨_, rfl, t.phase_of_cancel⟩
  · exact .inl ⟨_, rfl⟩

/-- A line that a running script waits for makes it run on, or end. -/
theorem goesOn_heedPlan (hphase : s.phase = .running) (h : s.isSatisfiedBy env line = true) :
    (s.heedPlan env line).GoesOn := by
  rw [heedPlan, if_neg (not_not_intro hphase)]
  rw [isSatisfiedBy] at h
  cases hwait : s.wait? with
  | none => rw [hwait] at h; cases h
  | some wait =>
    rw [hwait] at h
    cases wait with
    | text target =>
      dsimp only at h ⊢
      rw [h, if_pos rfl]
      exact .inl ⟨_, rfl⟩
    | regex pattern =>
      obtain ⟨caps, hcaps⟩ := Option.isSome_iff_exists.mp h
      dsimp only
      rw [hcaps]
      exact .inl ⟨_, rfl⟩
    | someMatch =>
      obtain ⟨found, hfound⟩ := Option.isSome_iff_exists.mp h
      dsimp only
      rw [hfound]
      exact goesOn_matchPlan env found.1 found.2 s
    | prompt | holds | roomChange => cases h

/-! ## The lines that run -/

/-- The states from which a script runs on when a line comes in, the earlier first. -/
def runsOn (env : Env) (line : String) (s : Script) : List Script :=
  if s.phase = .running then
    (s.reactPlan env line).runs ++
      (((s.reactPlan env line).carryOut env).heedPlan env line).runs
  else []

/-- The lines that run within so many steps. -/
def linesWithin (env : Env) : Nat → Script → List Line
  | 0, _ => []
  | n + 1, s =>
      s.nextLine?.toList ++
        match step env s with
        | .done _ => []
        | .again s => linesWithin env n s

/-- The lines that run from a state on. -/
def linesFrom (env : Env) (s : Script) : List Line :=
  linesWithin env (stepBound env s) s

/-- Nothing runs exactly where there is no line to run. -/
theorem linesFrom_eq_nil_iff : linesFrom env s = [] ↔ s.nextLine? = none := by
  rw [linesFrom, stepBound, linesWithin, List.append_eq_nil_iff]
  constructor
  · rintro ⟨hnext, -⟩
    exact Option.toList_eq_nil_iff.mp hnext
  · intro hnext
    obtain ⟨t, ht⟩ := step_of_nextLine?_eq_none env hnext
    rw [hnext, ht]
    exact ⟨rfl, rfl⟩

/-- The lines of a script that run when a line comes in. -/
def linesRunOn (env : Env) (line : String) (s : Script) : List Line :=
  (s.runsOn env line).flatMap (linesFrom env)

/-! ## What is armed while a line is heeded -/

theorem Plan.eq_of_runs_eq {plan : Plan} {front back : List Script}
    (h : plan.runs = front ++ t :: back) : front = [] ∧ back = [] ∧ plan = .runOn t := by
  cases plan with
  | rest u => simp [runs] at h
  | runOn u =>
    obtain ⟨rfl, hcons⟩ | ⟨front', rfl, hnil⟩ := List.cons_eq_append_iff.mp h
    · obtain ⟨rfl, rfl⟩ := List.cons.inj hcons
      exact ⟨rfl, rfl, rfl⟩
    · simp at hnil

/-- A script that is not running does not heed the line any more. -/
theorem heedPlan_of_not_running (h : s.phase ≠ .running) : s.heedPlan env line = .rest s :=
  if_pos h

/-- Without a jump the script runs at most once, and what it has armed by then is not looked at
again. -/
theorem onLine_of_not_jumped (hphase : s.phase = .running)
    (hreact : ∀ u, s.react env line ≠ (.jumped, u)) {front back : List Script}
    (h : s.runsOn env line = front ++ t :: back) :
    back = [] ∧ onLine env line s = run env t := by
  have hruns : (s.reactPlan env line).runs = [] := by
    rw [reactPlan]
    split
    · rfl
    · next u hu => exact absurd hu (hreact u)
    · rfl
  rw [runsOn, if_pos hphase, hruns, List.nil_append] at h
  obtain ⟨-, hback, hplan⟩ := Plan.eq_of_runs_eq h
  refine ⟨hback, ?_⟩
  rw [onLine_eq env line hphase, hplan]
  rfl

/-- Actions that neither end the script nor make it run on leave it at rest, unless the line is what
it waits for now. -/
theorem onLine_of_stayed (hphase : s.phase = .running) (hreact : s.react env line = (.stayed, t))
    (hunsat : t.isSatisfiedBy env line = false) :
    s.runsOn env line = [] ∧ onLine env line s = t := by
  have hplan : s.reactPlan env line = .rest t := by rw [reactPlan, hreact]
  have hheed := heedPlan_of_not_satisfied hunsat
  constructor
  · rw [runsOn, if_pos hphase, hplan, Plan.carryOut, hheed]
    rfl
  · rw [onLine_eq env line hphase, hplan, Plan.carryOut, hheed]
    rfl

/-- After a jump the line is heeded by the wait that the script has come to. -/
theorem onLine_of_jumped (hphase : s.phase = .running) (hreact : s.react env line = (.jumped, u)) :
    s.runsOn env line = u :: ((run env u).heedPlan env line).runs ∧
      onLine env line s = ((run env u).heedPlan env line).carryOut env := by
  have hplan : s.reactPlan env line = .runOn u := by rw [reactPlan, hreact]
  constructor
  · rw [runsOn, if_pos hphase, hplan]
    rfl
  · rw [onLine_eq env line hphase, hplan]
    rfl

/-- A script that an action ends does not heed the line any more. -/
theorem onLine_of_ended (hphase : s.phase = .running) (hreact : s.react env line = (.ended, t)) :
    onLine env line s = t.cancel := by
  have hplan : s.reactPlan env line = .rest t.cancel := by rw [reactPlan, hreact]
  have hstopped := t.phase_of_cancel
  rw [onLine_eq env line hphase, hplan, Plan.carryOut,
    heedPlan_of_not_running (by rw [hstopped]; exact nofun)]
  rfl

/-- A line that is what a script waits for is not left at that. -/
theorem not_satisfied_of_heedPlan (hphase : s.phase = .running)
    (hruns : (s.heedPlan env line).runs = []) (hsame : (s.heedPlan env line).carryOut env = s) :
    s.isSatisfiedBy env line = false := by
  cases hsat : s.isSatisfiedBy env line with
  | false => rfl
  | true =>
    rcases goesOn_heedPlan hphase hsat with ⟨t, ht⟩ | ⟨t, ht, hstopped⟩
    · rw [ht] at hruns
      exact absurd hruns (List.cons_ne_nil _ _)
    · rw [ht, Plan.carryOut] at hsame
      rw [hsame, hphase] at hstopped
      cases hstopped

/-! ### A wait behind a label -/

theorem substitute_of_isPlain (s : Script) (env : Env) {text : String} (h : isPlain text = true) :
    s.substitute env text = text := by
  refine s.scopes.substitute_eq_self env.globals fun c hc => ?_
  simpa [and_assoc] using List.all_eq_true.mp h c hc

theorem nextLine?_atStatement {next : Line} (statement : Statement)
    (h : s.nextLine? = some next) :
    (s.atStatement next statement).nextLine? = s.walk.program.lines[s.walk.next + 1]? := by
  have hphase := phase_of_nextLine? h
  unfold atStatement closeSingle
  split
  · exact if_pos hphase
  · exact iteInduction (motive := fun u => nextLine? u = _) (fun _ => if_pos hphase)
      fun _ => if_pos hphase

/-- A script in front of a label and of a line that waits for a text comes to wait for it. -/
theorem run_of_label {name text : String}
    (hlabel : s.nextLine?.bind (·.statement?) = some (.label name))
    (hwait : s.walk.program.lines[s.walk.next + 1]?.bind (·.statement?) = some (.waitFor text))
    (hplain : isPlain text = true) :
    (run env s).phase = .running ∧ (run env s).wait? = some (.text text) := by
  obtain ⟨first, hfirst, hreads⟩ := Option.bind_eq_some_iff.mp hlabel
  obtain ⟨second, hsecond, hreads'⟩ := Option.bind_eq_some_iff.mp hwait
  have hstep : step env s = .again (s.atStatement first (.label name)) := by
    rw [step_of_nextLine? env hfirst, runLine_of_statement env hfirst hreads]
    rfl
  generalize ht : s.atStatement first (.label name) = t at hstep
  have hnext : t.nextLine? = some second := by
    rw [← ht, nextLine?_atStatement _ hfirst, hsecond]
  have hphase : t.phase = .running := phase_of_nextLine? hnext
  have hrunning : (t.atStatement second (.waitFor text)).phase = .running :=
    (SameButPlace.closeSingle second _ (t.behindLine.remember second)).phase.trans hphase
  have hwaits := step_of_nextLine? env hnext
  rw [runLine_of_statement env hnext hreads'] at hwaits
  generalize t.atStatement second (.waitFor text) = u at hrunning hwaits
  have hbound : 2 ≤ stepBound env s :=
    Nat.succ_le_succ (Nat.mul_pos (Nat.succ_pos _) (Nat.zero_lt_of_lt (next_lt_size hfirst)))
  rw [(Returns.again hstep (.done hwaits)).run_eq hbound]
  refine ⟨(phase_debug u .waits _).trans hrunning, ?_⟩
  exact congrArg (fun text => some (Wait.text text)) (substitute_of_isPlain u env hplain)

/-- A script that goes to a label when it is told to stop, and waits there. -/
def jumper (wait : String) : Script :=
  watcher "goto here" ["here:", wait, "echo late"]

/-- The script `jumper` where its action has taken it. -/
def jumperHere (wait : String) : Script :=
  ((watchOrder "goto here" ["here:", wait, "echo late"]).outcome {}).2

/-- **When what is armed while a line is heeded stays armed.**  Take a running script and a line,
and any of the runs that the line causes.  If the script rests behind it, then it rests so when the
call returns, and nothing has run in between; unless the run was caused by an action that jumped and
the line is what the script came to wait for in it. -/
theorem armed_stays_iff (hphase : s.phase = .running) :
    (∀ front t back, s.runsOn env line = front ++ t :: back → (run env t).phase = .running →
        back = [] ∧ onLine env line s = run env t) ↔
      ∀ t, s.react env line = (.jumped, t) → (run env t).phase = .running →
        (run env t).isSatisfiedBy env line = false := by
  by_cases hjumped : ∃ u, s.react env line = (.jumped, u)
  · obtain ⟨u, hu⟩ := hjumped
    obtain ⟨hruns, honLine⟩ := onLine_of_jumped hphase hu
    constructor
    · intro hstays t ht hrunning
      obtain ⟨-, rfl⟩ := Prod.mk.inj (hu.symm.trans ht)
      obtain ⟨hnone, hsame⟩ := hstays [] u _ hruns hrunning
      exact not_satisfied_of_heedPlan hrunning hnone (honLine.symm.trans hsame)
    · intro hunsat front t back h hrunning
      -- once the script has run, the line is not heeded any more
      have hrest : (run env u).heedPlan env line = .rest (run env u) := by
        by_cases hphase' : (run env u).phase = .running
        · exact heedPlan_of_not_satisfied (hunsat u hu hphase')
        · exact heedPlan_of_not_running hphase'
      rw [hruns, hrest] at h
      have hone : (Plan.runOn u).runs = front ++ t :: back := h
      obtain ⟨-, hback, hrun⟩ := Plan.eq_of_runs_eq hone
      obtain rfl := Plan.runOn.inj hrun
      refine ⟨hback, ?_⟩
      rw [honLine, hrest]
      rfl
  · rw [not_exists] at hjumped
    constructor
    · intro _ t ht
      exact absurd ht (hjumped t)
    · intro _ front t back h _
      exact onLine_of_not_jumped hphase hjumped h

/-- If `jumper` waits for another room there, it is left waiting so. -/
theorem armed_stays_jumper :
    (jumper "nextroom").phase = .running ∧
      (jumper "nextroom").runsOn {} "Stop" = [jumperHere "nextroom"] ∧
      (run {} (jumperHere "nextroom")).phase = .running ∧
      onLine {} "Stop" (jumper "nextroom") = run {} (jumperHere "nextroom") := by
  have hphase : (jumper "nextroom").phase = .running := by decide +kernel
  have hrests : (run {} (jumperHere "nextroom")).phase = .running := by decide +kernel
  have hunsat : (run {} (jumperHere "nextroom")).isSatisfiedBy {} "Stop" = false := by
    decide +kernel
  obtain ⟨-, hreact⟩ : _ ∧ (jumper "nextroom").react {} "Stop" = (.jumped, jumperHere "nextroom") :=
    react_watcher "goto here" ["here:", "nextroom", "echo late"] (by decide +kernel)
      (by decide +kernel) (by decide +kernel) (by decide +kernel)
  have hruns := (onLine_of_jumped hphase hreact).1
  have hstays := (armed_stays_iff hphase).mpr fun t ht _ => by
    obtain ⟨-, rfl⟩ := Prod.mk.inj (hreact.symm.trans ht)
    exact hunsat
  obtain ⟨hnone, honLine⟩ := hstays [] _ _ hruns hrests
  rw [hnone] at hruns
  exact ⟨hphase, hruns, hrests, honLine⟩

/-- **If `jumper` waits for the very line there, that wait is over when the call returns**: the
lines behind it have run, and the script has ended. -/
theorem jumper_wait_ended :
    (jumper "waitfor Stop").phase = .running ∧
      jumperHere "waitfor Stop" ∈ (jumper "waitfor Stop").runsOn {} "Stop" ∧
      (run {} (jumperHere "waitfor Stop")).phase = .running ∧
      (run {} (jumperHere "waitfor Stop")).wait? = some (.text "Stop") ∧
      (onLine {} "Stop" (jumper "waitfor Stop")).phase = .stopped := by
  have hphase : (jumper "waitfor Stop").phase = .running := by decide +kernel
  obtain ⟨-, hreact⟩ : _ ∧ (jumper "waitfor Stop").react {} "Stop" =
      (.jumped, jumperHere "waitfor Stop") :=
    react_watcher "goto here" ["here:", "waitfor Stop", "echo late"] (by decide +kernel)
      (by decide +kernel) (by decide +kernel) (by decide +kernel)
  obtain ⟨hruns, honLine⟩ := onLine_of_jumped hphase hreact
  have hlabel : (jumperHere "waitfor Stop").nextLine?.bind (·.statement?) =
      some (.label "here") := by
    decide +kernel
  obtain ⟨hrests, hwait⟩ : (run {} (jumperHere "waitfor Stop")).phase = .running ∧
      (run {} (jumperHere "waitfor Stop")).wait? = some (.text "Stop") :=
    run_of_label hlabel (by decide +kernel) (by decide)
  have hfound : (({} : Env).matcher.literal "Stop" "Stop").isSome = true := by decide +kernel
  have hplan : (run {} (jumperHere "waitfor Stop")).heedPlan {} "Stop" =
      .runOn (run {} (jumperHere "waitfor Stop")).clearWaits := by
    rw [heedPlan, if_neg (not_not_intro hrests), hwait]
    exact if_pos hfound
  refine ⟨hphase, ?_, hrests, hwait, ?_⟩
  · rw [hruns]
    exact List.mem_cons_self ..
  · rw [honLine, hplan, Plan.carryOut]
    decide +kernel

end Script

end StreamScript
