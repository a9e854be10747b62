import StreamScript.Script.Jump

/-!
# Statements in action

What a statement does to a script, and how the script goes on.  A conditional on
one line contains the statement it guards, so this is a recursion on statements.

Nothing a statement does can fail: what cannot be understood is reported, and
then the script runs on or ends.
-/

namespace StreamScript

open Text Number

/-! ## Arithmetic on variables -/

/-- What can be wrong with a calculation. -/
inductive MathError where
  | divideByZero
  | unknownOperation (name : String)
  deriving DecidableEq, Repr

/-- The wording of an error in a calculation. -/
def MathError.message : MathError → String
  | .divideByZero => "cannot divide by zero!"
  | .unknownOperation name => "unknown math operation '" ++ name ++ "'"

/-- The operations of a calculation. -/
inductive MathOp where
  | set
  | add
  | subtract
  | multiply
  | divide
  | modulus
  deriving DecidableEq, Repr

namespace MathOp

/-- The operation of a name in small letters. -/
def ofName? : String → Option MathOp
  | "set" => some .set
  | "+" | "add" => some .add
  | "-" | "subtract" => some .subtract
  | "*" | "multiply" => some .multiply
  | "/" | "divide" => some .divide
  | "%" | "mod" | "modulus" => some .modulus
  | _ => none

/-- The result of an operation; only division can fail. -/
def apply (op : MathOp) (current number : Float) : Except MathError Float :=
  match op with
  | .set => .ok number
  | .add => .ok (current + number)
  | .subtract => .ok (current - number)
  | .multiply => .ok (current * number)
  | .divide => if number == 0.0 then .error .divideByZero else .ok (current / number)
  | .modulus => if number == 0.0 then .error .divideByZero else .ok (remainder current number)

/-- The result of the operation of a name. -/
def applyNamed (name : String) (current number : Float) : Except MathError Float :=
  match ofName? name with
  | some op => op.apply current number
  | none => .error (.unknownOperation name)

end MathOp

namespace Script

/-- Calculates with a variable. -/
def doMath (env : Env) (var op number : String) (s : Script) : Script :=
  let var := s.substitute env var
  let text := s.substitute env number
  match readFloat? (trim text.toList) with
  | none => s.report ("math: '" ++ text ++ "' is not a number")
  | some number =>
      let current := ((s.scopes.locals.get? var).bind fun v => readFloat? (trim v.toList)).getD 0.0
      match MathOp.applyNamed (lowered op) current number with
      | .ok result => s.setLocal var (Value.real result).render
      | .error e => s.report e.message

/-- Draws a whole number between two others, the ends included. -/
def doRandom (env : Env) (lo hi : String) (s : Script) : Script :=
  let lo := s.substitute env lo
  let hi := s.substitute env hi
  match readInt64? (trim lo.toList), readInt64? (trim hi.toList) with
  | some a, some b =>
      let number := env.draws.pick s.drawn (min a.toInt b.toInt) (max a.toInt b.toInt)
      let s := { s with drawn := s.drawn + 1 }
      s.setLocal "r" (String.ofList (intText number))
  | _, _ => s.report ("random: invalid range '" ++ lo ++ "' '" ++ hi ++ "'")

/-- What is drawn lies between the two numbers, whichever of them is the smaller one. -/
theorem exists_doRandom_eq (env : Env) {lo hi : String} {s : Script} {a b : Int64}
    (ha : readInt64? (trim (s.substitute env lo).toList) = some a)
    (hb : readInt64? (trim (s.substitute env hi).toList) = some b) :
    ∃ number : Int, min a.toInt b.toInt ≤ number ∧ number ≤ max a.toInt b.toInt ∧
      s.doRandom env lo hi =
        { s with drawn := s.drawn + 1 }.setLocal "r" (String.ofList (intText number)) := by
  have hle : min a.toInt b.toInt ≤ max a.toInt b.toInt := by omega
  refine ⟨_, env.draws.le_pick s.drawn hle, env.draws.pick_le s.drawn hle, ?_⟩
  rw [doRandom, ha, hb]

/-! ## Waits -/

/-- Keeps a number of seconds between zero and the longest wait. -/
def boundWait (seconds : Float) : Float :=
  if seconds < 0.0 then 0.0 else if maxWait < seconds then maxWait else seconds

/-- A finite number in a trimmed text. -/
def readFinite? (text : String) : Option Float :=
  (readFloat? (trim text.toList)).filter fun x => (Binary64.ofFloat x).isFinite

/-- Sets a timer that runs out so many seconds after an instant. -/
def setTimerAfter (instant : Nat) (seconds : Float) (kind : TimerKind) (s : Script) : Script :=
  { s with timer? := some ⟨instant + nanoseconds seconds, kind⟩ }

/-- Sets a timer that runs out in so many seconds. -/
def setTimer (env : Env) (seconds : Float) (kind : TimerKind) (s : Script) : Script :=
  setTimerAfter (env.clock s.readings) seconds kind { s with readings := s.readings + 1 }

/-- Pauses for a number of seconds; for one second, if that is not what the text says. -/
def doPause (env : Env) (seconds : String) (s : Script) : Script :=
  let seconds := boundWait ((readFinite? (s.substitute env seconds)).getD 1.0)
  let s := s.debug .waits ("pausing for " ++ String.ofList (plainText seconds) ++ " seconds")
  s.setTimer env seconds .pause

/-- Waits for one of the entries registered so far, for some time or for ever. -/
def doMatchWait (env : Env) (timeout : String) (s : Script) : Script :=
  let s := { s with matchSet? := MatchSet.ofEntries? s.targets }
  let timeout := s.substitute env timeout
  let s := match (readFinite? timeout).filter (0.0 < ·) with
    | some seconds => s.setTimer env (boundWait seconds) .matchTimeout
    | none => s
  let s := s.debug .waits ("matchwait " ++ trimmed timeout)
  { s with wait? := some .someMatch }

/-! ## Actions -/

/-- Adds an action; it takes the place of one with the same name. -/
def addAction (action : Action) (s : Script) : Script :=
  let named (a : Action) : Bool := action.name != "" && sameName a.name action.name
  match s.actions.findIdx? named with
  | some i => { s with actions := s.actions.set i action }
  | none => { s with actions := s.actions ++ [action] }

/-- Turns the actions of a name on or off. -/
def toggleActions (name : String) (on : Bool) (s : Script) : Script :=
  { s with
    actions := s.actions.map fun a => if sameName a.name name then { a with enabled := on } else a }

/-! ## Conditionals -/

/-- Whether a condition holds; what its patterns captured is bound. -/
def decideCondition (env : Env) (condition : Phrase) (s : Script) : Bool × Script :=
  let out := condition.evalBool env.host (s.substitute env)
  let s := s.debug .conditions ("if " ++ out.text ++ " = " ++ Value.boolText out.result)
  (out.result, if out.groups.isEmpty then s else s.setCaptured out.groups)

/-- Whether what a conditional tests is the case. -/
def decideHead (env : Env) (head : Head) (s : Script) : Bool × Script :=
  match head with
  | .ifHolds condition => decideCondition env condition s
  | .elseIf condition => decideCondition env condition s
  | .otherwise => (true, s)
  | .ifArgs count =>
      let result := decide (count ≤ s.scopes.args.length)
      (result, s.debug .conditions
        ("if_" ++ String.ofList (natText count) ++ " = " ++ Value.boolText result))

/-- Steps behind the brace on the next line; without one the script is told so. -/
def takeBrace (s : Script) : Bool × Script :=
  match s.walk.nextStatement? with
  | some .leftBrace => (true, { s with walk := s.walk.moveTo (s.walk.next + 1) })
  | _ => (false, s.report "Expected \x7b")

/-- Steps behind the brace of a block, wherever it should stand. -/
def enterBlock (brace : BracePlace) (s : Script) : Bool × Script :=
  match brace with
  | .here => (true, s)
  | .nextLine => s.takeBrace

/-- Opens a conditional. -/
def openFrame (frame : Frame) (s : Script) : Script :=
  { s with walk := s.walk.push frame }

/-- Puts a conditional in the place of the innermost one. -/
def replaceFrame (frame : Frame) (s : Script) : Script :=
  { s with walk := s.walk.replaceTop frame }

/-- An `if` with a block, on the line with the given index. -/
def openIf (env : Env) (head : Head) (brace : BracePlace) (idx : Nat) (s : Script) :
    Flow × Script :=
  let (result, s) := decideHead env head s
  match (s.openFrame ⟨idx, result⟩).enterBlock brace with
  | (false, s) => (.exit, s)
  | (true, s) => (if result then .next else .skipBlock, s)

/-- An `else` with a block, on the line with the given index. -/
def openElse (env : Env) (head : Head) (brace : BracePlace) (idx : Nat) (s : Script) :
    Flow × Script :=
  match s.enterBlock brace with
  | (false, s) => (.exit, s)
  | (true, s) =>
      match s.walk.ifs with
      | [] => (.skipBlock, (s.report "else without matching if").openFrame ⟨idx, true⟩)
      | top :: _ =>
          if top.satisfied then (.skipBlock, s.replaceFrame ⟨idx, true⟩)
          else
            let (result, s) := decideHead env head s
            (if result then .next else .skipBlock, s.replaceFrame ⟨idx, result⟩)

/-- Whether the body of a one-line conditional on the line with the given index runs; the
conditional is open from then on. -/
def enterSingle (env : Env) (head : Head) (idx : Nat) (s : Script) : Bool × Script :=
  match head with
  | .ifHolds _ | .ifArgs _ =>
      let (result, s) := decideHead env head s
      (result, s.openFrame ⟨idx, result⟩)
  | .elseIf _ | .otherwise =>
      match s.walk.ifs with
      | [] => (false, s.report "else without matching if")
      | top :: _ =>
          if top.satisfied then (false, s.replaceFrame ⟨idx, true⟩)
          else
            let (result, s) := decideHead env head s
            (result, s.replaceFrame ⟨idx, result⟩)

/-- Passes over the lines that a one-line conditional rules out once its body has run. -/
def skipRivals (head : Head) (s : Script) : Script :=
  match head with
  | .ifArgs _ => { s with walk := s.walk.skipIfArgs }
  | _ => { s with walk := s.walk.skipElses }

/-! ## Statements -/

/-- Waits for an event. -/
def await (wait : Wait) (s : Script) : Flow × Script :=
  (.wait, { s with wait? := some wait })

/-- A closing brace ends the innermost conditional. -/
def closeBlock (s : Script) : Flow × Script :=
  match s.walk.ifs with
  | [] => (.exit, s.report "End brace encountered without matching beginning block")
  | top :: outer =>
      (if top.satisfied then .skipChain else .next, { s with walk := { s.walk with ifs := outer } })

/-- Changes how much the script tells about itself. -/
def setDebugLevel (env : Env) (level : String) (s : Script) : Script :=
  let level := s.substitute env level
  match readNat? 255 (trim level.toList) with
  | some n => { s with debugLevel := DebugLevel.ofNumber n }
  | none => s.report ("invalid debug level '" ++ level ++ "'")

/-- **Carries out a statement.** -/
def execute (env : Env) : Statement → Script → Flow × Script
  | .block head brace, s =>
      match s.walk.index? with
      | none => (.exit, s)
      | some idx =>
          match head with
          | .ifHolds _ | .ifArgs _ => openIf env head brace idx s
          | .elseIf _ | .otherwise => openElse env head brace idx s
  | .single head body, s =>
      match s.walk.index? with
      | none => (.exit, s)
      | some idx =>
          match enterSingle env head idx s with
          | (false, s) => (.next, s)
          | (true, s) =>
              let (flow, after) := execute env body s
              (flow, if after.walk.next = s.walk.next then after.skipRivals head else after)
  | .leftBrace, s | .label _, s | .comment _, s => (.next, s)
  | .rightBrace, s => s.closeBlock
  | .goto label args, s => goto env label (.text args) s
  | .gosub label args, s => gosub env label args s
  | .leave, s => leave env s
  | .exit, s => (.exit, s)
  | .shift, s => (.next, { s with scopes := s.scopes.shiftArgs }.debug .variables "shift")
  | .nextRoom, s => (s.debug .waits "nextroom").await .roomChange
  | .debug level, s => (.next, s.setDebugLevel env level)
  | .echo text, s => (.next, s.emit (.echo (s.substitute env text)))
  | .put text, s => (.next, s.emit (.command (s.substitute env text)))
  | .send text, s => (.next, s.emit (.command ("#send " ++ s.substitute env text)))
  | .printBox text, s => (.next, s.emit (.command ("#printbox " ++ s.substitute env text)))
  | .move text, s =>
      let text := s.substitute env text
      let s := s.emit (.command text)
      (s.debug .waits ("move " ++ text ++ " - waiting for room change")).await .roomChange
  | .save text, s => (.next, s.setLocal "s" (s.substitute env text))
  | .setVar name value, s => (.next, s.setLocal (s.substitute env name) (s.substitute env value))
  | .unsetVar name, s =>
      let name := s.substitute env name
      let s := { s with scopes := { s.scopes with locals := s.scopes.locals.erase name } }
      (.next, s.debug .variables ("unvar " ++ name))
  | .math var op number, s => (.next, s.doMath env var op number)
  | .random lo hi, s => (.next, s.doRandom env lo hi)
  | .eval var phrase, s =>
      let var := s.substitute env var
      (.next, s.setLocal var (phrase.evalString env.host (s.substitute env)).result)
  | .evalMath var phrase, s =>
      let var := s.substitute env var
      (.next, s.setLocal var (phrase.evalNumber env.host (s.substitute env)).result)
  | .pause seconds, s => (.wait, s.doPause env seconds)
  | .matchText label text, s =>
      (.next, { s with targets := s.targets ++ [.literal label (s.substitute env text)] })
  | .matchRegex label pattern, s =>
      (.next, { s with targets := s.targets ++ [.regex label (s.substitute env pattern)] })
  | .matchWait timeout, s => (.wait, s.doMatchWait env timeout)
  | .waitFor text, s =>
      let text := s.substitute env text
      (s.debug .waits ("waitfor " ++ text)).await (.text text)
  | .waitForRegex pattern, s =>
      let pattern := s.substitute env pattern
      (s.debug .waits ("waitforre " ++ pattern)).await (.regex pattern)
  | .waitPrompt _, s => (s.debug .waits "waiting for prompt").await .prompt
  | .waitEval phrase, s => (s.debug .waits ("waiteval " ++ phrase.render)).await (.holds phrase)
  | .action name command pattern, s =>
      (.next, (s.addAction { name := name, command := command, pattern := pattern }).debug .actions
        ("action added: " ++ command ++ " when " ++ pattern))
  | .toggleAction name on, s =>
      (.next, (s.toggleActions name on).debug .actions
        ("action (" ++ name ++ ") " ++ (if on then "on" else "off")))

end Script

end StreamScript
