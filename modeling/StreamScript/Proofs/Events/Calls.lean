import StreamScript.Proofs.Events.Heeding
import StreamScript.Proofs.LoopBound

/-!
# The calls made on a script

Whatever happens outside reaches a script as a `Call`.  Each is a plan that is
carried out (`Call.apply_eq`): it leaves the script at rest, or makes it run on from
some state.  A line can make it run twice, once for an action and once for the wait.

A call that never comes back leads nowhere, so `Calls`, which relates a state to one
that is reached from it call by call, asks of each that its runs return
(`Call.Returns`).  They do whenever the loop guard has a window
(`Call.returns_of_window`).  `Calls` also keeps what was called, in which
surroundings and in which state, so that a history can be looked at moment by
moment.

The surroundings of one moment have nothing to do with those of another.  The global
variables may have changed in between, the numbers that are drawn may be any, and so
may be what the clock shows, reading by reading.  So what holds of all histories holds
whatever is drawn and however the time passes, within a call as well as from one to the
next.
-/

namespace StreamScript

open Number

namespace Script

variable {env : Env} {s t : Script}

/-! ## Plans of calls -/

/-- What is left to do when a script is started. -/
def startPlan (args : List String) (s : Script) : Plan :=
  match s.phase with
  | .notStarted =>
      let s := { s with scopes := s.scopes.setArgs args, phase := .running }
      .runOn (s.status ("[Starting '" ++ s.name ++ "']"))
  | _ => .rest s

/-- What is left to do when a script is resumed. -/
def resumePlan (s : Script) : Plan :=
  match s.phase with
  | .paused =>
      let pending := s.resumePending
      let s := { s with phase := .running }.status ("[Resuming '" ++ s.name ++ "']")
      let s := { s with resumePending := false }
      if pending then .runOn s else .rest s
  | _ => .rest s

/-- What is left to do when a line comes in, once it has set off actions. -/
def linePlan (env : Env) (line : String) (s : Script) : Plan :=
  if s.phase ≠ .running then .rest s
  else ((s.reactPlan env line).carryOut env).heedPlan env line

/-- What is left to do when someone else has matched what the script waits for. -/
def matchedPlan (env : Env) (caps : Captures) (s : Script) : Plan :=
  if s.phase ≠ .running then .rest s
  else
    match s.wait? with
    | none => .rest s
    | some .someMatch =>
        match caps.head?.bind fun text => findMatch? env text s with
        | some (label, _) => s.matchPlan env label caps
        | none => .rest s
    | some _ => .runOn (s.setCaptured caps).clearWaits

/-- What is left to do when the other side is ready for a command. -/
def promptPlan (env : Env) (s : Script) : Plan :=
  if s.phase ≠ .running then .rest s
  else
    match s.wait? with
    | some .prompt => .runOn s.clearWaits
    | some (.holds condition) =>
        match decideCondition env condition s with
        | (true, s) => .runOn s.clearWaits
        | (false, s) => .rest s
    | _ => .rest s

/-- What is left to do when the player has come into another room. -/
def roomPlan (s : Script) : Plan :=
  if s.phase ≠ .running then .rest s
  else
    match s.wait? with
    | some .roomChange => .runOn s.clearWaits
    | _ => .rest s

/-- What is left to do when an instant has come. -/
def timerPlan (env : Env) (instant : Nat) (s : Script) : Plan :=
  match s.timer? with
  | none => .rest s
  | some timer =>
      if s.isStopped || instant < timer.deadline then .rest s
      else
        let s := { s with timer? := none }
        match timer.kind with
        | .pause =>
            match roundtime? env.globals with
            | some seconds =>
                let seconds := boundWait seconds
                let shown := String.ofList (plainText (inSeconds (nanoseconds seconds)))
                let s := s.debug .waits ("waiting " ++ shown ++ "s for roundtime")
                .rest (s.setTimerAfter instant seconds .roundtime)
            | none => .runOn s
        | .roundtime => .runOn s
        | .matchTimeout => .runOn (s.debug .waits "matchwait timed out").clearWaits

/-! ## Calls -/

/-- A call made on a script from outside. -/
inductive Call where
  | start (args : List String)
  | next
  | pause
  | resume
  | cancel
  /-- A line comes in. -/
  | line (text : String)
  /-- Someone else has matched what the script waits for. -/
  | matched (caps : Captures)
  | prompt
  | roomChange
  /-- An instant has come. -/
  | timer (instant : Nat)
  deriving DecidableEq, Repr

namespace Call

/-- What a call makes of a script. -/
def apply (env : Env) : Call → Script → Script
  | .start args, s => s.start env args
  | .next, s => s.run env
  | .pause, s => s.pause
  | .resume, s => s.resume env
  | .cancel, s => s.cancel
  | .line text, s => s.onLine env text
  | .matched caps, s => s.onMatch env caps
  | .prompt, s => s.onPrompt env
  | .roomChange, s => s.onRoomChange env
  | .timer instant, s => s.onInstant env instant

/-- What is left to do when a call is made. -/
def plan (env : Env) : Call → Script → Plan
  | .start args, s => s.startPlan args
  | .next, s => .runOn s
  | .pause, s => .rest s.pause
  | .resume, s => s.resumePlan
  | .cancel, s => .rest s.cancel
  | .line text, s => s.linePlan env text
  | .matched caps, s => s.matchedPlan env caps
  | .prompt, s => s.promptPlan env
  | .roomChange, s => s.roomPlan
  | .timer instant, s => s.timerPlan env instant

theorem apply_eq (env : Env) (call : Call) (s : Script) :
    call.apply env s = (call.plan env s).carryOut env := by
  cases call with
  | next | pause | cancel => rfl
  | start args =>
    rw [apply, plan, Script.start, startPlan]
    cases s.phase <;> rfl
  | resume =>
    rw [apply, plan, Script.resume, resumePlan]
    cases s.phase with
    | paused => dsimp only; split <;> rfl
    | notStarted | running | stopped => rfl
  | line text =>
    rw [apply, plan, linePlan]
    by_cases h : s.phase = .running
    · rw [onLine_eq env text h, if_neg (not_not_intro h)]
    · rw [onLine, if_pos h, if_pos h]
      rfl
  | matched caps =>
    rw [apply, plan, onMatch, matchedPlan]
    split
    · rfl
    · cases s.wait? with
      | none => rfl
      | some wait =>
        cases wait with
        | someMatch =>
          dsimp only
          cases caps.head?.bind fun text => findMatch? env text s with
          | none => rfl
          | some found => exact resolveMatch_eq env found.1 caps s
        | text | regex | prompt | holds | roomChange => rfl
  | prompt =>
    rw [apply, plan, onPrompt, promptPlan]
    split
    · rfl
    · cases s.wait? with
      | none => rfl
      | some wait =>
        cases wait with
        | holds condition =>
          dsimp only
          rcases decideCondition env condition s with ⟨_ | _, t⟩ <;> rfl
        | text | regex | prompt | someMatch | roomChange => rfl
  | roomChange =>
    rw [apply, plan, onRoomChange, roomPlan]
    split
    · rfl
    · cases s.wait? with
      | none => rfl
      | some wait => cases wait <;> rfl
  | timer instant =>
    rw [apply, plan, onInstant, timerPlan]
    cases s.timer? with
    | none => rfl
    | some timer =>
      dsimp only
      split
      · rfl
      · cases timer.kind with
        | pause => dsimp only; cases roundtime? env.globals <;> rfl
        | roundtime | matchTimeout => rfl

/-- The states from which a call makes a script run. -/
def runs (env : Env) : Call → Script → List Script
  | .line text, s => s.runsOn env text
  | call, s => (call.plan env s).runs

/-- Whether a call comes back: none of its runs goes on for ever. -/
def Returns (env : Env) (call : Call) (s : Script) : Prop :=
  ∀ t ∈ call.runs env s, ∃ met, Script.Returns env t met (run env t)

/-- With a window for the loop guard every call comes back. -/
theorem returns_of_window (hw : 0 < env.settings.loopWindow) (call : Call) (s : Script) :
    call.Returns env s := by
  intro t _
  obtain ⟨met, u, hreturns, hlength, hlines, -⟩ := exists_returns hw t
  have hbound : met.length ≤ stepBound env t := by
    have hle := linesLeft_le env t
    rw [stepBound, jumpBound, if_neg (Nat.ne_of_gt hw)]
    omega
  rw [hreturns.run_eq hbound]
  exact ⟨met, hreturns⟩

end Call

/-! ## Histories -/

/-- A call, with the surroundings and the state in which it is made. -/
structure Moment where
  env : Env
  call : Call
  script : Script

/-- Calls are made one after another, each of which comes back. -/
inductive Calls : Script → List Moment → Script → Prop where
  | nil (s : Script) : Calls s [] s
  | cons {env : Env} {call : Call} {s t : Script} {moments : List Moment}
      (hreturns : call.Returns env s) (rest : Calls (call.apply env s) moments t) :
      Calls s (⟨env, call, s⟩ :: moments) t

end Script

end StreamScript
