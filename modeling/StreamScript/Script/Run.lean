import StreamScript.Script.Execute

/-!
# Running a script

Lines run one after another until one of them makes the script wait, or it ends.
Between two jumps the script only moves forward, and once the clock stands still
the loop guard allows a limited number of jumps; so the number of lines that can
run in one go is known beforehand, and the loop is a recursion on that number.

Whatever happens outside reaches a script as one of a few calls.  A script that
is paused takes note only of its timer, and runs on when it is resumed.
-/

namespace StreamScript

open Text Number

namespace Script

/-! ## One line -/

/-- A conditional on one line stays open only while the lines that follow continue its chain. -/
def closeSingle (line : Line) (statement : Statement) (s : Script) : Script :=
  match s.walk.ifs with
  | [] => s
  | top :: _ =>
      let single := match s.walk.opener? top with
        | some opener => opener.isSingle
        | none => false
      if single && (!statement.isElse || line.closesBlock) then { s with walk := s.walk.pop } else s

/-- Runs the line that the script stands behind. -/
def runLine (env : Env) (s : Script) : Flow × Script :=
  match s.walk.line? with
  | none => (.exit, s)
  | some line =>
      let s := s.remember line
      match line.statement? with
      | none => (.next, s.report ("unknown command '" ++ line.text ++ "'"))
      | some statement => execute env statement (s.closeSingle line statement)

/-- Ends a script whose blocks do not close. -/
def failStructure (s : Script) : Script :=
  (s.report "Unable to match next if block").cancel

/-- Passes over the block just opened; the truth value tells whether it was closed.  The
conditional stays open behind the block when its chain goes on there. -/
def skipBlock (s : Script) : Bool × Script :=
  match s.walk.skipBlock with
  | (none, walk) => (false, { s with walk := walk })
  | (some .sibling, walk) => (true, { s with walk := walk })
  | (some .brace, walk) =>
      let goesOn := match walk.nextStatement? with
        | some statement => statement.isElse
        | none => false
      (true, { s with walk := if goesOn then walk else walk.pop })

/-- Passes over the rest of the chain just closed; the truth value tells whether its blocks were
closed. -/
def skipChain (s : Script) : Bool × Script :=
  let (closed, walk) := s.walk.skipChain
  (closed, { s with walk := walk })

/-! ## Many lines -/

/-- What is left to do after a line: nothing, or to run on. -/
inductive Step where
  | done (s : Script)
  | again (s : Script)

/-- A script runs on behind what it passed over, if that was closed. -/
def ofSkip : Bool × Script → Step
  | (true, s) => .again s
  | (false, s) => .done s.failStructure

/-- How a script goes on after a line. -/
def proceed : Flow × Script → Step
  | (.next, s) => .again s
  | (.wait, s) => .done { s with guard := {} }
  | (.exit, s) => .done s.cancel
  | (.skipBlock, s) => ofSkip s.skipBlock
  | (.skipChain, s) => ofSkip s.skipChain

/-- Runs the next line of a script, if it is running and there is one. -/
def step (env : Env) (s : Script) : Step :=
  match s.phase with
  | .notStarted | .stopped => .done s
  | .paused => .done { s with resumePending := true }
  | .running =>
      match s.walk.advance? with
      | none => .done s.cancel
      | some walk => proceed (runLine env { s with walk := walk })

/-- Runs lines, so many at most. -/
def steps (env : Env) : Nat → Script → Script
  | 0, s => s
  | n + 1, s =>
      match step env s with
      | .done s => s
      | .again s => steps env n s

/-- How many jumps in a row a run can make.  Without a window the guard never sees two of them in a
row, and then there is no such number. -/
def jumpBound (settings : Settings) : Nat :=
  if settings.loopWindow = 0 then 4611686018427387904 else settings.loopLimit

/-- The readings of the clock that are left before it stands still. -/
def ticksLeft (env : Env) (s : Script) : Nat :=
  env.ticks.length - s.readings

/-- More steps than a run can take: every jump starts at most one more walk through the lines, and
it reads the clock. -/
def stepBound (env : Env) (s : Script) : Nat :=
  (ticksLeft env s + jumpBound env.settings + 1) * s.walk.program.lines.size + 1

/-- **Runs lines until something makes the script wait or ends it.** -/
def run (env : Env) (s : Script) : Script :=
  steps env (stepBound env s) s

/-! ## The life of a script -/

/-- Starts a script with its arguments. -/
def start (env : Env) (args : List String) (s : Script) : Script :=
  match s.phase with
  | .notStarted =>
      let s := { s with scopes := s.scopes.setArgs args, phase := .running }
      run env (s.status ("[Starting '" ++ s.name ++ "']"))
  | _ => s

/-- Pauses a script. -/
def pause (s : Script) : Script :=
  match s.phase with
  | .running => { s with phase := .paused }.status ("[Pausing '" ++ s.name ++ "']")
  | _ => s

/-- Lets a paused script go on; it runs at once if it would have run while it was paused. -/
def resume (env : Env) (s : Script) : Script :=
  match s.phase with
  | .paused =>
      let pending := s.resumePending
      let s := { s with phase := .running }.status ("[Resuming '" ++ s.name ++ "']")
      let s := { s with resumePending := false }
      if pending then run env s else s
  | _ => s

/-! ## Waits that end -/

/-- Runs on behind a wait that has ended. -/
def finishWait (env : Env) (s : Script) : Script :=
  run env s.clearWaits

/-- The first entry that a line satisfies, in front of a place if one is given, counted from
`idx`.  Only regular patterns are looked at. -/
def firstRegex? (env : Env) (line : String) (limit : Option Nat) (idx : Nat) :
    List MatchEntry → Option (Nat × Captures)
  | [] => none
  | entry :: rest =>
      if limit.any (· ≤ idx) then none
      else
        match entry with
        | .literal .. => firstRegex? env line limit (idx + 1) rest
        | .regex _ pattern =>
            match env.matcher.regex line pattern with
            | some caps => some (idx, caps)
            | none => firstRegex? env line limit (idx + 1) rest

/-- The label and captures of the first entry that a line satisfies. -/
def findMatch? (env : Env) (line : String) (s : Script) : Option (String × Captures) :=
  let literal? := s.matchSet?.bind fun set => set.firstPlace? line
  let found? := match firstRegex? env line literal? 0 s.targets with
    | some (idx, caps) => some (idx, caps)
    | none => literal?.map fun idx => (idx, [])
  found?.bind fun (idx, caps) =>
    s.targets[idx]?.map fun entry => match entry with
      | .literal label text => (label, [text])
      | .regex label _ => (label, caps)

/-- Goes to the label of an entry that was matched. -/
def resolveMatch (env : Env) (label : String) (caps : Captures) (s : Script) : Script :=
  match goto env label (.groups caps) (s.debug .waits ("match " ++ label)) with
  | (.exit, s) => s.cancel
  | (_, s) => run env s

/-! ## Actions -/

/-- Whether a statement is a jump. -/
def isJump : Statement → Bool
  | .goto .. | .gosub .. => true
  | _ => false

/-- What came of the commands of actions. -/
inductive Reaction where
  /-- The script has to end. -/
  | ended
  /-- The script stands at another line and has to run from there. -/
  | jumped
  /-- The script stands where it stood. -/
  | stayed
  deriving DecidableEq, Repr

/-- Turns verbatim text on or off. -/
def setVerbatim (on : Bool) (s : Script) : Script :=
  { s with scopes := { s.scopes with verbatim := on } }

/-- Carries out one command of an action.  Its variables are put in first, so that the statement
read from it is taken verbatim. -/
def runCommand (env : Env) (command : String) (s : Script) : Reaction × Script :=
  let text := s.scopes.substituteAction env.globals command
  match Statement.read? text with
  | none => (.stayed, s.report ("unknown action command '" ++ text ++ "'"))
  | some statement =>
      let (flow, s) := execute env statement (s.setVerbatim true)
      let s := s.setVerbatim false
      match flow with
      | .exit => (.ended, s)
      | .next => (if isJump statement then .jumped else .stayed, s)
      | _ => (.stayed, s)

/-- Carries out commands one after another; `jumped` tells whether one before them was a jump. -/
def runCommands (env : Env) (jumped : Bool) : List String → Script → Reaction × Script
  | [], s => (if jumped then .jumped else .stayed, s)
  | command :: rest, s =>
      match runCommand env command s with
      | (.ended, s) => (.ended, s)
      | (.jumped, s) => runCommands env true rest s
      | (.stayed, s) => runCommands env jumped rest s

/-- Carries out the commands of those actions whose patterns a line matches. -/
def trigger (env : Env) (line : String) (jumped : Bool) : List Action → Script → Reaction × Script
  | [], s => (if jumped then .jumped else .stayed, s)
  | action :: rest, s =>
      match env.matcher.regex line (s.scopes.substituteAction env.globals action.pattern) with
      | none => trigger env line jumped rest s
      | some caps =>
          let s := { s with scopes := { s.scopes with actionCaptured := Scope.indexed caps } }
          let s := s.debug .actions ("action triggered: " ++ action.command)
          match runCommands env jumped (Action.splitCommands action.command) s with
          | (.ended, s) => (.ended, s)
          | (reaction, s) => trigger env line (reaction == .jumped) rest s

/-- Lets a line set off the actions that are enabled when it comes in. -/
def runActions (env : Env) (line : String) (s : Script) : Script :=
  match trigger env line false (s.actions.filter (·.enabled)) s with
  | (.ended, s) => s.cancel
  | (.jumped, s) => run env s
  | (.stayed, s) => s

/-! ## Events -/

/-- A line comes in: first it sets off actions, then it may end a wait. -/
def onLine (env : Env) (line : String) (s : Script) : Script :=
  if s.phase ≠ .running then s
  else
    let s := runActions env line s
    if s.phase ≠ .running then s
    else
      match s.wait? with
      | some (.text target) =>
          if (env.matcher.literal line target).isSome then finishWait env s else s
      | some (.regex pattern) =>
          match env.matcher.regex line pattern with
          | some caps => finishWait env (s.setCaptured caps)
          | none => s
      | some .someMatch =>
          match findMatch? env line s with
          | some (label, caps) => resolveMatch env label caps s
          | none => s
      | _ => s

/-- Someone else has matched what the script waits for.  Among several entries the whole match
decides. -/
def onMatch (env : Env) (caps : Captures) (s : Script) : Script :=
  if s.phase ≠ .running then s
  else
    match s.wait? with
    | none => s
    | some .someMatch =>
        match caps.head?.bind fun text => findMatch? env text s with
        | some (label, _) => resolveMatch env label caps s
        | none => s
    | some _ => finishWait env (s.setCaptured caps)

/-- The other side is ready for a command. -/
def onPrompt (env : Env) (s : Script) : Script :=
  if s.phase ≠ .running then s
  else
    match s.wait? with
    | some .prompt => finishWait env s
    | some (.holds condition) =>
        match decideCondition env condition s with
        | (true, s) => finishWait env s
        | (false, s) => s
    | _ => s

/-- The player has come into another room. -/
def onRoomChange (env : Env) (s : Script) : Script :=
  if s.phase ≠ .running then s
  else
    match s.wait? with
    | some .roomChange => finishWait env s
    | _ => s

/-- The time, in seconds, that has to pass after a pause before the other side takes commands. -/
def roundtime? (globals : Store) : Option Float :=
  let ignored := (globals.get? "scriptengine:ignoreroundtime").bind fun v => readBool? v.toList
  if ignored = some true then none
  else
    (globals.number? "roundtime").filter fun x => 0.0 < x && (Binary64.ofFloat x).isFinite

/-- Nanoseconds as a number of seconds. -/
def inSeconds (nanos : Nat) : Float :=
  Float.ofNat (nanos / 1000000000) + Float.ofNat (nanos % 1000000000) / 1e9

/-- An instant has come: the timer runs out if its deadline is not behind it.  The instant need not
be the one that the clock shows. -/
def onInstant (env : Env) (instant : Nat) (s : Script) : Script :=
  match s.timer? with
  | none => s
  | some timer =>
      if s.isStopped || instant < timer.deadline then s
      else
        let s := { s with timer? := none }
        match timer.kind with
        | .pause =>
            match roundtime? env.globals with
            | some seconds =>
                let seconds := boundWait seconds
                let shown := String.ofList (plainText (inSeconds (nanoseconds seconds)))
                let s := s.debug .waits ("waiting " ++ shown ++ "s for roundtime")
                s.setTimerAfter instant seconds .roundtime
            | none => run env s
        | .roundtime => run env s
        | .matchTimeout => finishWait env (s.debug .waits "matchwait timed out")

/-- Time has passed: the timer runs out if its deadline has come. -/
def onTimer (env : Env) (s : Script) : Script :=
  s.onInstant env env.now

end Script

end StreamScript
