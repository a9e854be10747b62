import StreamScript.Proofs.Blocks.Endings

/-!
# What bodies mean

The meaning of a body is told on its tree, without lines, places or open
conditionals: in a chain the conditions are tried in order, and the body of the
first part whose condition holds is carried out.  All that matters of a script is
its `View`, the variables it sees and what it has sent out.

`Statement.perform` and `Head.test` say what statements and conditions do to a
view, and `view_execute` and `view_decideHead` that this is what they do to a
script.

## Two readings of a chain

`Body.eval` is the meaning one expects; a body in which variables never stop being
put into some text has none.  `Body.perform` differs from it in one place: when a
branch ends with a conditional none of whose branches ran, and is closed by the line
of the next part, that part is tried as well.  It also keeps the statements carried
out, so that the two can be compared step by step, and it goes on behind a statement
that never ends, as a `Script` does, but remembers the view in front of the first of
them.  Where every part stands on a line of its own the two agree (`result?_perform`).
-/

namespace StreamScript

open Text Number

/-- Whether an event is an echo or a command. -/
def Event.isSent : Event → Bool
  | .echo _ | .command _ => true
  | .status _ => false

/-- What a script has to show: its variables and what it has sent out. -/
structure View where
  scopes : Scopes
  sent : List Event := []

namespace View

/-- Puts variables into a text. -/
def substitute (v : View) (env : Env) (text : String) : String :=
  v.scopes.substitute env.globals text

/-- Sends something out. -/
def send (v : View) (event : Event) : View :=
  { v with sent := v.sent ++ [event] }

/-- Gives the script's own variable a value. -/
def setLocal (v : View) (name value : String) : View :=
  { v with scopes := v.scopes.setLocal name value }

/-- Binds what a pattern captured, if it captured anything. -/
def capture (v : View) (groups : Captures) : View :=
  if groups.isEmpty then v
  else { v with scopes := { v.scopes with captured := Scope.indexed groups } }

/-- Calculates with a variable. -/
def calculate (v : View) (env : Env) (var op number : String) : View :=
  match readFloat? (trim (v.substitute env number).toList) with
  | none => v
  | some number =>
      let var := v.substitute env var
      let current := ((v.scopes.locals.get? var).bind fun t => readFloat? (trim t.toList)).getD 0.0
      match MathOp.applyNamed (lowered op) current number with
      | .ok result => v.setLocal var (Value.real result).render
      | .error _ => v

end View

/-! ## Statements and conditions -/

/-- What a direct statement does.  The others are not carried out here. -/
def Statement.perform (env : Env) : Statement → View → View
  | .shift, v => { v with scopes := v.scopes.shiftArgs }
  | .echo text, v => v.send (.echo (v.substitute env text))
  | .put text, v => v.send (.command (v.substitute env text))
  | .send text, v => v.send (.command ("#send " ++ v.substitute env text))
  | .printBox text, v => v.send (.command ("#printbox " ++ v.substitute env text))
  | .save text, v => v.setLocal "s" (v.substitute env text)
  | .setVar name value, v => v.setLocal (v.substitute env name) (v.substitute env value)
  | .unsetVar name, v =>
      { v with
        scopes := { v.scopes with locals := v.scopes.locals.erase (v.substitute env name) } }
  | .math var op number, v => v.calculate env var op number
  | .eval var phrase, v =>
      v.setLocal (v.substitute env var) (phrase.evalString env.host (v.substitute env)).result
  | .evalMath var phrase, v =>
      v.setLocal (v.substitute env var) (phrase.evalNumber env.host (v.substitute env)).result
  | _, v => v

theorem Statement.steers_of_isDirect {s : Statement} (h : s.isDirect = true) :
    s.steers = false := by
  cases s with
  | block | single | rightBrace | goto | gosub | leave => cases h
  | _ => rfl

/-- Whether a condition holds; what its patterns captured is bound. -/
def Phrase.test (env : Env) (condition : Phrase) (v : View) : Bool × View :=
  let out := condition.evalBool env.host (v.substitute env)
  (out.result, v.capture out.groups)

/-- Whether what a conditional tests is the case. -/
def Head.test (env : Env) : Head → View → Bool × View
  | .ifHolds condition, v | .elseIf condition, v => condition.test env v
  | .otherwise, v => (true, v)
  | .ifArgs count, v => (decide (count ≤ v.scopes.args.length), v)

/-- Whether a statement comes to an end, given what there is to show in front of it. -/
def Statement.endsIn (env : Env) : Statement → View → Bool
  | .block head _, v => head.ends env v.scopes
  | .single head body, v =>
      head.ends env v.scopes && (!(head.test env v).1 || body.endsIn env (head.test env v).2)
  | statement, v => statement.ends env v.scopes

/-- What a direct statement does, if it comes to an end. -/
def Statement.perform? (env : Env) (statement : Statement) (v : View) : Option View :=
  if statement.endsIn env v then some (statement.perform env v) else none

/-- Goes on as the test of a conditional says, if the test comes to an end. -/
def Head.decide? (env : Env) (head : Head) (run skip : View → Option View) (v : View) :
    Option View :=
  if head.ends env v.scopes then
    match head.test env v with
    | (true, v) => run v
    | (false, v) => skip v
  else none

theorem Statement.endsIn_of_isDirect (env : Env) {statement : Statement}
    (h : statement.isDirect = true) (v : View) :
    statement.endsIn env v = statement.ends env v.scopes := by
  cases statement with
  | block | single => cases h
  | _ => rfl

namespace Script

/-- What a script has to show. -/
def view (s : Script) : View :=
  ⟨s.scopes, s.log.toList.filter Event.isSent⟩

variable (s : Script)

theorem substitute_eq_view (env : Env) (text : String) :
    s.substitute env text = s.view.substitute env text :=
  rfl

theorem scopes_eq_view : s.scopes = s.view.scopes :=
  rfl

theorem view_emit {event : Event} (h : event.isSent = true) :
    (s.emit event).view = s.view.send event := by
  simp [view, emit, View.send, List.filter_append, h]

@[simp] theorem view_status (text : String) : (s.status text).view = s.view := by
  simp [view, status, emit, List.filter_append, Event.isSent]

@[simp] theorem view_report (message : String) : (s.report message).view = s.view :=
  s.view_status _

@[simp] theorem view_debug (level : DebugLevel) (message : String) :
    (s.debug level message).view = s.view := by
  unfold debug
  split
  · exact s.view_report message
  · rfl

theorem scopes_debug (level : DebugLevel) (message : String) :
    (s.debug level message).scopes = s.scopes :=
  congrArg View.scopes (s.view_debug level message)

theorem view_withScopes (scopes : Scopes) :
    { s with scopes := scopes }.view = { s.view with scopes := scopes } :=
  rfl

theorem view_setLocal (name value : String) :
    (s.setLocal name value).view = s.view.setLocal name value := by
  unfold setLocal
  dsimp only
  rw [view_withScopes, view_debug, scopes_debug]
  rfl

theorem view_doMath (env : Env) (var op number : String) :
    (s.doMath env var op number).view = s.view.calculate env var op number := by
  unfold doMath View.calculate
  simp only [substitute_eq_view, scopes_eq_view]
  cases readFloat? (trim (s.view.substitute env number).toList) with
  | none => exact s.view_report _
  | some number =>
    dsimp only
    cases MathOp.applyNamed (lowered op)
        (((s.view.scopes.locals.get? (s.view.substitute env var)).bind
          fun t => readFloat? (trim t.toList)).getD 0.0) number with
    | ok result => exact s.view_setLocal _ _
    | error e => exact s.view_report _

theorem view_setDebugLevel (env : Env) (level : String) :
    (s.setDebugLevel env level).view = s.view := by
  unfold setDebugLevel
  dsimp only
  split
  · rfl
  · exact s.view_report _

theorem view_addAction (action : Action) : (s.addAction action).view = s.view := by
  unfold addAction
  dsimp only
  split <;> rfl

/-- **A direct statement does to a script what it does to its view, and lets the next line run.** -/
theorem view_execute (env : Env) {statement : Statement} (h : statement.isDirect = true) :
    (execute env statement s).1 = .next ∧
      (execute env statement s).2.view = statement.perform env s.view := by
  cases statement with
  | label | comment => exact ⟨rfl, rfl⟩
  | shift => exact ⟨rfl, by rw [execute, view_debug]; rfl⟩
  | debug level => exact ⟨rfl, s.view_setDebugLevel env level⟩
  | echo | put | send | printBox => exact ⟨rfl, s.view_emit rfl⟩
  | save | setVar | eval | evalMath => exact ⟨rfl, s.view_setLocal _ _⟩
  | unsetVar name => exact ⟨rfl, by rw [execute, view_debug]; rfl⟩
  | math var op number => exact ⟨rfl, s.view_doMath env var op number⟩
  | matchText | matchRegex => exact ⟨rfl, rfl⟩
  | action name command pattern =>
    exact ⟨rfl, by rw [execute, view_debug, view_addAction]; rfl⟩
  | toggleAction name on => exact ⟨rfl, by rw [execute, view_debug]; rfl⟩
  | _ => cases h

theorem view_decideCondition (env : Env) (condition : Phrase) :
    (s.decideCondition env condition).1 = (condition.test env s.view).1 ∧
      (s.decideCondition env condition).2.view = (condition.test env s.view).2 := by
  refine ⟨rfl, ?_⟩
  unfold decideCondition Phrase.test View.capture
  dsimp only
  simp only [show s.substitute env = s.view.substitute env from rfl]
  split
  · exact s.view_debug _ _
  · rw [setCaptured, view_withScopes, view_debug, scopes_debug]
    rfl

/-- Testing a head does to a script what it does to its view. -/
theorem view_decideHead (env : Env) (head : Head) :
    (s.decideHead env head).1 = (head.test env s.view).1 ∧
      (s.decideHead env head).2.view = (head.test env s.view).2 := by
  cases head with
  | ifHolds condition => exact s.view_decideCondition env condition
  | elseIf condition => exact s.view_decideCondition env condition
  | otherwise => exact ⟨rfl, rfl⟩
  | ifArgs count => exact ⟨rfl, s.view_debug _ _⟩

end Script

namespace Layout

/-- What a plain line does; one that is not understood does nothing. -/
def PlainLine.perform (env : Env) (l : PlainLine) (v : View) : View :=
  match l.line.statement? with
  | none => v
  | some s => s.perform env v

/-- The same, if the line comes to an end. -/
def PlainLine.perform? (env : Env) (l : PlainLine) (v : View) : Option View :=
  match l.line.statement? with
  | none => some v
  | some s => s.perform? env v

/-! ## The meaning one expects -/

mutual

/-- **What a body does.**  There is no such thing when one of its lines never ends. -/
def Body.eval (env : Env) : Body → View → Option View
  | .nil, v => some v
  | .plain l rest, v => (l.perform? env v).bind (rest.eval env)
  | .chain c rest, v => (c.eval env v).bind (rest.eval env)

/-- What a chain does: the conditions are tried in order, and the body of the first part whose
condition holds is carried out. -/
def Chain.eval {lead : Lead} (env : Env) : Chain lead → View → Option View
  | .stop, v => some v
  | .single l next, v => l.head.decide? env (l.body.perform? env) (next.eval env) v
  | .block o body _ next, v => o.head.decide? env (body.eval env) (next.eval env) v
  | .joined o body next, v => o.head.decide? env (body.eval env) (next.eval env) v

end

/-! ## The meaning that lines have -/

/-- How far a body has been carried out. -/
structure Outcome where
  view : View
  /-- The statements carried out; `none` stands for a line that was not understood. -/
  trail : List (Option Statement) := []
  /-- Whether what was carried out last is a chain none of whose parts ran, and whose last part is
  a block. -/
  isOpen : Bool := false
  /-- The view in front of the first statement that never ends. -/
  stuck? : Option View := none

namespace Outcome

/-- One more statement has been carried out. -/
def carry (o : Outcome) (env : Env) (statement? : Option Statement) (v : View) : Outcome where
  view := v
  trail := o.trail ++ [statement?]
  stuck? := o.stuck?.or (if statement?.all (·.endsIn env o.view) then none else some o.view)

/-- Nothing is open. -/
def closed (o : Outcome) : Outcome :=
  { o with isOpen := false }

/-- A chain is open. -/
def opened (o : Outcome) : Outcome :=
  { o with isOpen := true }

/-- What there is to show in the end, if every statement has come to an end. -/
def result? (o : Outcome) : Option View :=
  match o.stuck? with
  | none => some o.view
  | some _ => none

/-- A statement is carried out behind those before it, if they and it come to an end. -/
theorem result?_carry (o : Outcome) (env : Env) (statement? : Option Statement) (v : View) :
    (o.carry env statement? v).result? =
      o.result?.bind fun w => if statement?.all (·.endsIn env w) then some v else none := by
  rw [carry, result?, result?]
  cases o.stuck? with
  | some => rfl
  | none =>
    rw [Option.none_or, Option.bind_some]
    cases statement?.all (·.endsIn env o.view) <;> rfl

/-- What is done next matters only for the view that there is. -/
theorem bind_result?_congr (o : Outcome) {f g : View → Option View} (h : f o.view = g o.view) :
    o.result?.bind f = o.result?.bind g := by
  rw [result?]
  cases o.stuck? with
  | none => exact h
  | some => rfl

end Outcome

mutual

/-- What a body does, with the statements that are carried out. -/
def Body.perform (env : Env) : Body → Outcome → Outcome
  | .nil, o => o
  | .plain l rest, o => rest.perform env (o.carry env l.line.statement? (l.perform env o.view))
  | .chain c rest, o => rest.perform env (c.perform env o)

/-- What a chain does.  A part that closes the block of the one before is tried also behind a
branch that has run, when this has left a chain open. -/
def Chain.perform {lead : Lead} (env : Env) : Chain lead → Outcome → Outcome
  | .stop, o => o
  | .single l next, o =>
      match l.head.test env o.view with
      | (true, v) => o.carry env l.line.statement? (l.body.perform env v)
      | (false, v) => next.perform env (o.carry env l.line.statement? v)
  | .block p body _ next, o =>
      match p.head.test env o.view with
      | (true, v) => (body.perform env (o.carry env p.line.statement? v)).closed
      | (false, v) => next.perform env (o.carry env p.line.statement? v).opened
  | .joined p body next, o =>
      match p.head.test env o.view with
      | (true, v) =>
          let ran := body.perform env (o.carry env p.line.statement? v)
          if ran.isOpen then next.perform env ran else ran
      | (false, v) => next.perform env (o.carry env p.line.statement? v).opened

end

/-! ## Where the two agree -/

theorem PlainLine.result?_carry (l : PlainLine) (env : Env) (o : Outcome) :
    (o.carry env l.line.statement? (l.perform env o.view)).result? =
      o.result?.bind (l.perform? env) := by
  rw [Outcome.result?_carry]
  refine o.bind_result?_congr ?_
  rw [perform, perform?]
  cases l.line.statement? with
  | none => rfl
  | some s => rfl

/-- Behind the line of a part with a block goes on what its test asks for. -/
theorem Opening.result?_carry {lead : Lead} (p : Opening lead) {env : Env} {o : Outcome}
    {holds : Bool} {v : View} (htest : p.head.test env o.view = (holds, v))
    (run skip : View → Option View) :
    (o.carry env p.line.statement? v).result?.bind (if holds then run else skip) =
      o.result?.bind (p.head.decide? env run skip) := by
  rw [Outcome.result?_carry, p.reads, Option.bind_assoc]
  refine o.bind_result?_congr ?_
  rw [Head.decide?, htest, Option.all_some, Statement.endsIn]
  cases p.head.ends env o.view.scopes <;> cases holds <;> rfl

/-- So it does behind a part on one line whose body does not run. -/
theorem OneLine.result?_carry_of_false {lead : Lead} (l : OneLine lead) {env : Env} {o : Outcome}
    {v : View} (htest : l.head.test env o.view = (false, v)) (run skip : View → Option View) :
    (o.carry env l.line.statement? v).result?.bind skip =
      o.result?.bind (l.head.decide? env run skip) := by
  rw [Outcome.result?_carry, l.reads, Option.bind_assoc]
  refine o.bind_result?_congr ?_
  rw [Head.decide?, htest, Option.all_some, Statement.endsIn, htest]
  cases l.head.ends env o.view.scopes <;> rfl

/-- A part on one line whose body runs comes to an end when its head and its body do. -/
theorem OneLine.result?_carry_of_true {lead : Lead} (l : OneLine lead) {env : Env} {o : Outcome}
    {v : View} (htest : l.head.test env o.view = (true, v)) (skip : View → Option View) :
    (o.carry env l.line.statement? (l.body.perform env v)).result? =
      o.result?.bind (l.head.decide? env (l.body.perform? env) skip) := by
  rw [Outcome.result?_carry, l.reads]
  refine o.bind_result?_congr ?_
  rw [Head.decide?, htest, Option.all_some, Statement.endsIn, htest]
  cases l.head.ends env o.view.scopes <;> rfl

mutual

/-- **Where every part starts a line of its own, bodies do what one expects.** -/
theorem Body.result?_perform (env : Env) :
    (b : Body) → b.isParted = true → (o : Outcome) →
      (b.perform env o).result? = o.result?.bind (b.eval env)
  | .nil, _, o => (Option.bind_fun_some _).symm
  | .plain l rest, h, o => by
    rw [Body.isParted] at h
    rw [Body.perform, rest.result?_perform env h, l.result?_carry, Option.bind_assoc]
    rfl
  | .chain c rest, h, o => by
    rw [Body.isParted, Bool.and_eq_true] at h
    rw [Body.perform, rest.result?_perform env h.2, c.result?_perform env h.1, Option.bind_assoc]
    rfl

/-- The same for chains. -/
theorem Chain.result?_perform (env : Env) {lead : Lead} :
    (c : Chain lead) → c.isParted = true → (o : Outcome) →
      (c.perform env o).result? = o.result?.bind (c.eval env)
  | .stop, _, o => (Option.bind_fun_some _).symm
  | .single l next, h, o => by
    rw [Chain.isParted] at h
    have heval : (Chain.single l next).eval env =
        l.head.decide? env (l.body.perform? env) (next.eval env) := funext fun v => by
      rw [Chain.eval]
    rw [Chain.perform, heval]
    rcases htest : l.head.test env o.view with ⟨_ | _, v⟩
    · exact (next.result?_perform env h _).trans (l.result?_carry_of_false htest _ _)
    · exact l.result?_carry_of_true htest _
  | .block p body close next, h, o => by
    rw [Chain.isParted, Bool.and_eq_true] at h
    have heval : (Chain.block p body close next).eval env =
        p.head.decide? env (body.eval env) (next.eval env) := funext fun v => by
      rw [Chain.eval]
    rw [Chain.perform, heval]
    rcases htest : p.head.test env o.view with ⟨_ | _, v⟩
    · exact (next.result?_perform env h.2 _).trans (p.result?_carry htest (body.eval env) _)
    · exact (body.result?_perform env h.1 _).trans (p.result?_carry htest _ (next.eval env))
  | .joined .., h, o => by
    rw [Chain.isParted] at h
    cases h

end

end Layout

end StreamScript
