import StreamScript.Proofs.Runs

/-!
# What was said before

A script adds to its log and never looks at it.  So whatever stands in front of what it
has said makes no difference to it: `preceded` puts something there, and every operation
can be carried out before or behind that.  There is one equation for each operation,
and `run_preceded` is the last of them.

The equations move `preceded` out of an operation.  Those about operations that send
something out have the only content, which is that to add at the end and to put
something in front are done in either order.
-/

namespace StreamScript

open Text Number

namespace Script

variable (front : Array Event) (s : Script) (env : Env)

/-- A script in front of whose log something stands. -/
def preceded (front : Array Event) (s : Script) : Script :=
  { s with log := front ++ s.log }

/-- The same for what comes of an operation. -/
def behind {α : Type} (front : Array Event) (r : α × Script) : α × Script :=
  (r.1, r.2.preceded front)

@[simp] theorem walk_preceded : (s.preceded front).walk = s.walk := rfl
@[simp] theorem scopes_preceded : (s.preceded front).scopes = s.scopes := rfl
@[simp] theorem phase_preceded : (s.preceded front).phase = s.phase := rfl
@[simp] theorem debugLevel_preceded : (s.preceded front).debugLevel = s.debugLevel := rfl
@[simp] theorem gosubs_preceded : (s.preceded front).gosubs = s.gosubs := rfl
@[simp] theorem actions_preceded : (s.preceded front).actions = s.actions := rfl
@[simp] theorem guard_preceded : (s.preceded front).guard = s.guard := rfl
@[simp] theorem drawn_preceded : (s.preceded front).drawn = s.drawn := rfl
@[simp] theorem readings_preceded : (s.preceded front).readings = s.readings := rfl
@[simp] theorem isStopped_preceded : (s.preceded front).isStopped = s.isStopped := rfl

@[simp] theorem substitute_preceded (text : String) :
    (s.preceded front).substitute env text = s.substitute env text := rfl

/-! ## Output and variables -/

theorem emit_preceded (event : Event) :
    (s.preceded front).emit event = (s.emit event).preceded front := by
  unfold emit preceded
  dsimp only
  rw [Array.push_eq_append, Array.push_eq_append, Array.append_assoc]

theorem report_preceded (message : String) :
    (s.preceded front).report message = (s.report message).preceded front :=
  emit_preceded front s _

theorem debug_preceded (level : DebugLevel) (message : String) :
    (s.preceded front).debug level message = (s.debug level message).preceded front := by
  unfold debug
  rw [debugLevel_preceded, report_preceded]
  exact (apply_ite (preceded front) _ _ _).symm

theorem setLocal_preceded (name value : String) :
    (s.preceded front).setLocal name value = (s.setLocal name value).preceded front := by
  unfold setLocal
  rw [debug_preceded]
  rfl

theorem doMath_preceded (var op number : String) :
    (s.preceded front).doMath env var op number = (s.doMath env var op number).preceded front := by
  unfold doMath
  simp only [substitute_preceded, scopes_preceded]
  cases readFloat? (trim (s.substitute env number).toList) with
  | none => exact report_preceded front s _
  | some number =>
    dsimp only
    generalize MathOp.applyNamed _ _ _ = result
    cases result with
    | ok result => exact setLocal_preceded front s _ _
    | error e => exact report_preceded front s _

theorem doRandom_preceded (lo hi : String) :
    (s.preceded front).doRandom env lo hi = (s.doRandom env lo hi).preceded front := by
  unfold doRandom
  simp only [substitute_preceded, drawn_preceded]
  cases readInt64? (trim (s.substitute env lo).toList) with
  | none => exact report_preceded front s _
  | some a =>
    cases readInt64? (trim (s.substitute env hi).toList) with
    | none => exact report_preceded front s _
    | some b => exact setLocal_preceded front { s with drawn := _ } _ _

theorem setDebugLevel_preceded (level : String) :
    (s.preceded front).setDebugLevel env level =
      (s.setDebugLevel env level).preceded front := by
  unfold setDebugLevel
  simp only [substitute_preceded]
  cases readNat? 255 (trim (s.substitute env level).toList) with
  | none => exact report_preceded front s _
  | some n => rfl

/-! ## Waits and actions -/

theorem doPause_preceded (seconds : String) :
    (s.preceded front).doPause env seconds = (s.doPause env seconds).preceded front := by
  unfold doPause
  simp only [substitute_preceded, debug_preceded]
  rfl

/-- To wait for a match is to gather the entries, to set a timer if a time is given, and to wait. -/
theorem doMatchWait_eq (timeout : String) :
    s.doMatchWait env timeout =
      (((((readFinite? (s.substitute env timeout)).filter (0.0 < ·)).elim id
        fun seconds => setTimer env (boundWait seconds) .matchTimeout)
        { s with matchSet? := MatchSet.ofEntries? s.targets }).debug .waits
          ("matchwait " ++ trimmed (s.substitute env timeout)) |>.await .someMatch).2 := by
  have hsame : ({ s with matchSet? := MatchSet.ofEntries? s.targets } : Script).substitute env
      timeout = s.substitute env timeout := rfl
  unfold doMatchWait
  dsimp only
  rw [hsame]
  cases (readFinite? (s.substitute env timeout)).filter (0.0 < ·) <;> rfl

theorem doMatchWait_preceded (timeout : String) :
    (s.preceded front).doMatchWait env timeout = (s.doMatchWait env timeout).preceded front := by
  rw [doMatchWait_eq, doMatchWait_eq, substitute_preceded]
  cases (readFinite? (s.substitute env timeout)).filter (0.0 < ·) with
  | none =>
    exact congrArg (fun u : Script => (u.await .someMatch).2)
      (debug_preceded front { s with matchSet? := MatchSet.ofEntries? s.targets } .waits _)
  | some seconds =>
    exact congrArg (fun u : Script => (u.await .someMatch).2)
      (debug_preceded front (setTimer env (boundWait seconds) .matchTimeout
        { s with matchSet? := MatchSet.ofEntries? s.targets }) .waits _)

theorem addAction_preceded (action : Action) :
    (s.preceded front).addAction action = (s.addAction action).preceded front := by
  unfold addAction
  simp only [actions_preceded]
  generalize s.actions.findIdx? _ = found
  cases found <;> rfl

/-! ## Jumps -/

theorem foldl_status_preceded (entries : List String) :
    entries.foldl status (s.preceded front) = (entries.foldl status s).preceded front := by
  induction entries generalizing s with
  | nil => rfl
  | cons entry rest ih =>
    rw [List.foldl_cons, List.foldl_cons, ← ih]
    exact congrArg (rest.foldl status) (emit_preceded front s _)

theorem reportLoop_preceded :
    (s.preceded front).reportLoop = s.reportLoop.preceded front := by
  unfold reportLoop
  simp only [guard_preceded, report_preceded]
  exact foldl_status_preceded front _ _

theorem countJump_preceded :
    countJump env (s.preceded front) = behind front (countJump env s) := by
  unfold countJump
  refine Eq.trans ?_ (apply_ite (behind front) _ _ _).symm
  refine ite_congr rfl (fun _ => ?_) fun _ => rfl
  exact congrArg (Prod.mk true) (reportLoop_preceded front { s with
    guard := s.guard.record env.settings.loopWindow (env.clock s.readings)
    readings := s.readings + 1 })

theorem leave_preceded : leave env (s.preceded front) = behind front (leave env s) := by
  unfold leave
  rw [gosubs_preceded]
  cases s.gosubs with
  | nil =>
    dsimp only
    rw [report_preceded]
    rfl
  | cons frame outer =>
    dsimp only
    rw [show ({ s.preceded front with gosubs := outer } : Script) =
      preceded front { s with gosubs := outer } from rfl, countJump_preceded]
    generalize countJump env { s with gosubs := outer } = r
    obtain ⟨tripped, t⟩ := r
    cases tripped with
    | true => rfl
    | false =>
      refine congrArg (Prod.mk Flow.next) ?_
      exact debug_preceded front { t with
        scopes := { t.scopes with labelVars := frame.labelVars }
        walk := { t.walk with ifs := frame.ifs }.moveTo frame.next } .gosubs "return"

theorem bindLabelArgs_preceded (args : LabelArgs) :
    (s.preceded front).bindLabelArgs env args = (s.bindLabelArgs env args).preceded front := by
  cases args <;> rfl

theorem goto_eq (label : String) (args : LabelArgs) :
    goto env label args s =
      let name := String.ofList (lowercase (trim (s.substitute env label).toList))
      match s.walk.program.label? name with
      | none =>
          if name = "return" then leave env s
          else (.exit, s.report ("label '" ++ name ++ "' not found"))
      | some target =>
          match countJump env s with
          | (true, s) => (.exit, s)
          | (false, s) => (.next, s.arrived env name target args) :=
  rfl

theorem arrived_preceded (name : String) (target : Label) (args : LabelArgs) :
    (s.preceded front).arrived env name target args =
      (s.arrived env name target args).preceded front := by
  have hbind := bindLabelArgs_preceded front
    { s.clearWaits with scopes := { s.scopes with captured := .empty } } env args
  unfold arrived
  rw [← debug_preceded]
  exact congrArg (fun u : Script =>
    ({ u with walk := { u.walk with ifs := [] }.moveTo target.line } : Script).debug .gosubs
      ("goto " ++ name)) hbind

theorem goto_preceded (label : String) (args : LabelArgs) :
    goto env label args (s.preceded front) = behind front (goto env label args s) := by
  rw [goto_eq, goto_eq, substitute_preceded, walk_preceded, leave_preceded, countJump_preceded]
  dsimp only
  generalize String.ofList (lowercase (trim (s.substitute env label).toList)) = name
  cases s.walk.program.label? name with
  | none =>
    refine Eq.trans ?_ (apply_ite (behind front) _ _ _).symm
    exact ite_congr rfl (fun _ => rfl) fun _ =>
      congrArg (Prod.mk Flow.exit) (report_preceded front s _)
  | some target =>
    dsimp only
    generalize countJump env s = r
    obtain ⟨tripped, t⟩ := r
    cases tripped with
    | true => rfl
    | false => exact congrArg (Prod.mk Flow.next) (arrived_preceded front t env _ target args)

theorem gosub_preceded (label args : String) :
    gosub env label args (s.preceded front) = behind front (gosub env label args s) := by
  unfold gosub
  rw [gosubs_preceded, report_preceded, goto_preceded]
  split
  · rfl
  · split
    · rfl
    · dsimp only
      generalize goto env label (.text args) s = r
      obtain ⟨flow, t⟩ := r
      cases flow <;> rfl

/-! ## Conditionals -/

theorem decideCondition_preceded (condition : Phrase) :
    (s.preceded front).decideCondition env condition =
      behind front (s.decideCondition env condition) := by
  unfold decideCondition
  rw [show (s.preceded front).substitute env = s.substitute env from rfl]
  dsimp only
  rw [debug_preceded]
  refine congrArg (Prod.mk _) ?_
  dsimp only
  split <;> rfl

theorem decideHead_preceded (head : Head) :
    (s.preceded front).decideHead env head = behind front (s.decideHead env head) := by
  cases head with
  | ifHolds condition => exact decideCondition_preceded front s env condition
  | elseIf condition => exact decideCondition_preceded front s env condition
  | otherwise => rfl
  | ifArgs count => exact congrArg (Prod.mk _) (debug_preceded front s .conditions _)

theorem enterBlock_preceded (brace : BracePlace) :
    (s.preceded front).enterBlock brace = behind front (s.enterBlock brace) := by
  cases brace with
  | here => rfl
  | nextLine =>
    rw [enterBlock, enterBlock, takeBrace, takeBrace, report_preceded, walk_preceded]
    split <;> rfl

theorem openIf_preceded (head : Head) (brace : BracePlace) (idx : Nat) :
    openIf env head brace idx (s.preceded front) =
      behind front (openIf env head brace idx s) := by
  unfold openIf
  rw [decideHead_preceded]
  dsimp only [behind]
  rw [show ((s.decideHead env head).2.preceded front).openFrame ⟨idx, (s.decideHead env head).1⟩ =
    ((s.decideHead env head).2.openFrame ⟨idx, (s.decideHead env head).1⟩).preceded front from rfl,
    enterBlock_preceded]
  generalize ((s.decideHead env head).2.openFrame
    ⟨idx, (s.decideHead env head).1⟩).enterBlock brace = r
  obtain ⟨entered, t⟩ := r
  cases entered <;> rfl

theorem openElse_preceded (head : Head) (brace : BracePlace) (idx : Nat) :
    openElse env head brace idx (s.preceded front) =
      behind front (openElse env head brace idx s) := by
  unfold openElse
  rw [enterBlock_preceded]
  generalize s.enterBlock brace = r
  obtain ⟨entered, t⟩ := r
  cases entered with
  | false => rfl
  | true =>
    dsimp only [behind]
    rw [walk_preceded]
    cases t.walk.ifs with
    | nil =>
      dsimp only
      rw [report_preceded]
      rfl
    | cons top outer =>
      dsimp only
      rw [decideHead_preceded]
      split <;> rfl

theorem enterSingle_preceded (head : Head) (idx : Nat) :
    enterSingle env head idx (s.preceded front) =
      behind front (enterSingle env head idx s) := by
  cases head with
  | ifHolds | ifArgs =>
    rw [enterSingle, enterSingle, decideHead_preceded]
    rfl
  | elseIf | otherwise =>
    rw [enterSingle, enterSingle, decideHead_preceded, report_preceded, walk_preceded]
    cases s.walk.ifs with
    | nil => rfl
    | cons top outer =>
      dsimp only
      split <;> rfl

theorem skipRivals_preceded (head : Head) :
    (s.preceded front).skipRivals head = (s.skipRivals head).preceded front := by
  cases head <;> rfl

theorem closeBlock_preceded : (s.preceded front).closeBlock = behind front s.closeBlock := by
  rw [closeBlock, closeBlock, report_preceded, walk_preceded]
  cases s.walk.ifs <;> rfl

/-! ## Statements -/

/-- **A statement does the same whatever was said before.** -/
theorem execute_preceded (statement : Statement) :
    execute env statement (s.preceded front) = behind front (execute env statement s) := by
  have hwaits (t : Script) (message : String) (wait : Wait) :
      ((t.preceded front).debug .waits message).await wait =
        behind front ((t.debug .waits message).await wait) := by
    rw [debug_preceded]
    rfl
  induction statement generalizing s with
  | single head body ih =>
    rw [execute, execute, walk_preceded]
    cases s.walk.index? with
    | none => rfl
    | some idx =>
      dsimp only
      rw [enterSingle_preceded]
      generalize enterSingle env head idx s = r
      obtain ⟨entered, t⟩ := r
      cases entered with
      | false => rfl
      | true =>
        dsimp only [behind]
        rw [ih]
        refine congrArg (Prod.mk _) ?_
        refine Eq.trans ?_ (apply_ite (preceded front) _ _ _).symm
        exact ite_congr rfl (fun _ => skipRivals_preceded front _ head) fun _ => rfl
  | block head brace =>
    rw [execute, execute, walk_preceded]
    cases s.walk.index? with
    | none => rfl
    | some idx =>
      cases head with
      | ifHolds | ifArgs => exact openIf_preceded front s env _ brace idx
      | elseIf | otherwise => exact openElse_preceded front s env _ brace idx
  | leftBrace | label | comment | exit => rfl
  | rightBrace => exact closeBlock_preceded front s
  | goto label args => exact goto_preceded front s env label _
  | gosub label args => exact gosub_preceded front s env label args
  | leave => exact leave_preceded front s env
  | shift =>
    exact congrArg (Prod.mk _)
      (debug_preceded front { s with scopes := s.scopes.shiftArgs } .variables _)
  | nextRoom => exact hwaits s _ _
  | debug level => exact congrArg (Prod.mk _) (setDebugLevel_preceded front s env level)
  | echo | put | send | printBox => exact congrArg (Prod.mk _) (emit_preceded front s _)
  | move text =>
    refine Eq.trans ?_ (hwaits (s.emit (.command (s.substitute env text))) _ _)
    exact congrArg (fun u : Script => (u.debug .waits _).await .roomChange)
      (emit_preceded front s _)
  | save | setVar | eval | evalMath =>
    exact congrArg (Prod.mk _) (setLocal_preceded front s _ _)
  | unsetVar name =>
    exact congrArg (Prod.mk _) (debug_preceded front { s with scopes := _ } .variables _)
  | math var op number => exact congrArg (Prod.mk _) (doMath_preceded front s env var op number)
  | random lo hi => exact congrArg (Prod.mk _) (doRandom_preceded front s env lo hi)
  | pause seconds => exact congrArg (Prod.mk _) (doPause_preceded front s env seconds)
  | matchText | matchRegex => rfl
  | matchWait timeout => exact congrArg (Prod.mk _) (doMatchWait_preceded front s env timeout)
  | waitFor | waitForRegex | waitPrompt | waitEval => exact hwaits s _ _
  | action name command pattern =>
    refine congrArg (Prod.mk _) ?_
    rw [addAction_preceded, debug_preceded]
    rfl
  | toggleAction name on =>
    exact congrArg (Prod.mk _) (debug_preceded front (s.toggleActions name on) .actions _)

/-! ## Lines -/

theorem cancel_preceded : (s.preceded front).cancel = s.cancel.preceded front := by
  unfold cancel
  rw [isStopped_preceded]
  split
  · rfl
  · exact emit_preceded front { s.clearWaits with
      phase := .stopped, resumePending := false, actions := [], gosubs := [] } _

theorem closeSingle_preceded (line : Line) (statement : Statement) :
    (s.preceded front).closeSingle line statement =
      (s.closeSingle line statement).preceded front := by
  unfold closeSingle
  rw [walk_preceded]
  cases s.walk.ifs with
  | nil => rfl
  | cons top outer =>
    dsimp only
    rw [apply_ite (preceded front)]
    rfl

theorem runLine_preceded : runLine env (s.preceded front) = behind front (runLine env s) := by
  unfold runLine
  rw [walk_preceded]
  cases s.walk.line? with
  | none => rfl
  | some line =>
    dsimp only
    rw [show (s.preceded front).remember line = (s.remember line).preceded front from rfl]
    cases line.statement? with
    | none =>
      dsimp only
      rw [report_preceded]
      rfl
    | some statement =>
      dsimp only
      rw [closeSingle_preceded, execute_preceded]

theorem skipBlock_preceded : (s.preceded front).skipBlock = behind front s.skipBlock := by
  unfold skipBlock
  rw [walk_preceded]
  rcases s.walk.skipBlock with ⟨stop?, walk⟩
  cases stop? with
  | none => rfl
  | some stop => cases stop <;> rfl

/-! ## Runs -/

/-- A step of a script in front of whose log something stands. -/
def Step.preceded (front : Array Event) : Step → Step
  | .done s => .done (s.preceded front)
  | .again s => .again (s.preceded front)

theorem ofSkip_preceded (r : Bool × Script) :
    ofSkip (behind front r) = (ofSkip r).preceded front := by
  obtain ⟨closed, t⟩ := r
  cases closed with
  | true => rfl
  | false =>
    refine congrArg Step.done ?_
    unfold failStructure
    rw [report_preceded, cancel_preceded]

theorem proceed_preceded (r : Flow × Script) :
    proceed (behind front r) = (proceed r).preceded front := by
  obtain ⟨flow, t⟩ := r
  cases flow with
  | next | wait => rfl
  | exit => exact congrArg Step.done (cancel_preceded front t)
  | skipBlock =>
    rw [proceed, ← ofSkip_preceded, ← skipBlock_preceded]
    rfl
  | skipChain => exact ofSkip_preceded front t.skipChain

theorem step_preceded : step env (s.preceded front) = (step env s).preceded front := by
  unfold step
  rw [phase_preceded, walk_preceded]
  split
  · rfl
  · rfl
  · rfl
  · split
    · exact congrArg Step.done (cancel_preceded front s)
    · next walk _ =>
      rw [← proceed_preceded, ← runLine_preceded]
      rfl

theorem steps_preceded (n : Nat) :
    steps env n (s.preceded front) = (steps env n s).preceded front := by
  induction n generalizing s with
  | zero => rfl
  | succ n ih =>
    rw [steps, steps, step_preceded]
    cases step env s with
    | done t => rfl
    | again t => exact ih t

/-- **A script runs in the same way whatever was said before.** -/
theorem run_preceded : run env (s.preceded front) = (run env s).preceded front :=
  steps_preceded front s env _

end Script

end StreamScript
