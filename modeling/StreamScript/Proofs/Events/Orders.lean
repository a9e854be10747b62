import StreamScript.Proofs.Standing

/-!
# What a line sets off

A line that comes in sets off the actions whose patterns it matches, and their
commands are carried out one after another.  Which statements these are cannot be
read off the actions: variables are put into a command just before it is carried
out, and the commands in front of it may have changed them, as they may have
changed the pattern that decides whether the next action is set off at all.

So the commands are listed as they are met, each as an `Order`: its text and the
script that is about to carry it out.  `orders` lists what a line sets off, and
`react` is what comes of it.  The two are joined by

* `carries_react`: between one order and the next nothing happens to where the
  script stands, so that the orders lead from the script in front to the one behind;
* `fst_react`: whether the script has to end or to run on is decided by the orders
  one by one.

Where a command has no variables, the order is the command itself
(`react_of_one_command`).  The program `watching` at the end has one such command,
and serves as an example wherever the orders of a line matter.
-/

namespace StreamScript

/-- A command of an action with its variables put in, and the script about to carry it out. -/
structure Order where
  text : String
  script : Script

namespace Order

variable (env : Env) (o : Order)

/-- The statement that a command is read as. -/
def statement? : Option Statement :=
  Statement.read? o.text

/-- What comes of carrying out a command.  One that is not understood is reported. -/
def outcome : Flow × Script :=
  match o.statement? with
  | none => (.next, o.script.report ("unknown action command '" ++ o.text ++ "'"))
  | some statement =>
      let r := Script.execute env statement (o.script.setVerbatim true)
      (r.1, r.2.setVerbatim false)

/-- What the script has to do about it. -/
def reaction : Script.Reaction :=
  match (o.outcome env).1 with
  | .exit => .ended
  | .next => if o.statement?.any Script.isJump then .jumped else .stayed
  | _ => .stayed

end Order

namespace Script

variable {env : Env} {s t u : Script}

/-! ## Reactions one after another -/

/-- What a script has to do about several commands; `jumped` tells whether one before them was a
jump. -/
def Reaction.overall (jumped : Bool) : List Reaction → Reaction
  | [] => if jumped then .jumped else .stayed
  | .ended :: _ => .ended
  | .jumped :: rest => overall true rest
  | .stayed :: rest => overall jumped rest

namespace Reaction

theorem overall_append (jumped : Bool) (front back : List Reaction) :
    overall jumped (front ++ back) =
      match overall jumped front with
      | .ended => .ended
      | reaction => overall (reaction == .jumped) back := by
  induction front generalizing jumped with
  | nil => cases jumped <;> rfl
  | cons reaction rest ih =>
    cases reaction with
    | ended => rfl
    | jumped => exact ih true
    | stayed => exact ih jumped

theorem overall_eq_ended_iff {jumped : Bool} {reactions : List Reaction} :
    overall jumped reactions = .ended ↔ .ended ∈ reactions := by
  induction reactions generalizing jumped with
  | nil => cases jumped <;> simp [overall]
  | cons reaction rest ih => cases reaction <;> simp [overall, ih]

theorem overall_eq_stayed_iff {jumped : Bool} {reactions : List Reaction} :
    overall jumped reactions = .stayed ↔ jumped = false ∧ ∀ r ∈ reactions, r = .stayed := by
  induction reactions generalizing jumped with
  | nil => cases jumped <;> simp [overall]
  | cons reaction rest ih => cases reaction <;> simp [overall, ih]

theorem overall_eq_jumped_iff {jumped : Bool} {reactions : List Reaction} :
    overall jumped reactions = .jumped ↔
      (jumped = true ∨ .jumped ∈ reactions) ∧ .ended ∉ reactions := by
  induction reactions generalizing jumped with
  | nil => cases jumped <;> simp [overall]
  | cons reaction rest ih => cases reaction <;> simp [overall, ih]

end Reaction

/-! ## The commands of one action -/

/-- A command in the hands of a script. -/
def order (env : Env) (command : String) (s : Script) : Order :=
  ⟨s.scopes.substituteAction env.globals command, s⟩

theorem runCommand_eq (env : Env) (command : String) (s : Script) :
    runCommand env command s =
      ((s.order env command).reaction env, ((s.order env command).outcome env).2) := by
  unfold runCommand Order.reaction Order.outcome Order.statement? order
  dsimp only
  cases Statement.read? (s.scopes.substituteAction env.globals command) with
  | none => rfl
  | some statement =>
    dsimp only
    rcases execute env statement (s.setVerbatim true) with ⟨flow, t⟩
    cases flow <;> rfl

theorem runCommands_cons_of_stayed {jumped : Bool} {command : String} {rest : List String}
    (h : (s.order env command).reaction env = .stayed) :
    runCommands env jumped (command :: rest) s =
      runCommands env jumped rest ((s.order env command).outcome env).2 := by
  rw [runCommands, runCommand_eq, h]

/-- The orders that commands give one after another, up to one that ends the script. -/
def ordersOf (env : Env) : List String → Script → List Order
  | [], _ => []
  | command :: rest, s =>
      let o := s.order env command
      o :: if o.reaction env = .ended then [] else ordersOf env rest (o.outcome env).2

theorem fst_runCommands (env : Env) (jumped : Bool) (commands : List String) (s : Script) :
    (runCommands env jumped commands s).1 =
      Reaction.overall jumped ((ordersOf env commands s).map (·.reaction env)) := by
  induction commands generalizing jumped s with
  | nil => rfl
  | cons command rest ih =>
    rw [runCommands, runCommand_eq, ordersOf, List.map_cons]
    cases (s.order env command).reaction env with
    | ended => rfl
    | jumped => exact ih true _
    | stayed => exact ih jumped _

/-- Whether there was a jump before does not matter to what commands do. -/
theorem snd_runCommands (env : Env) (jumped : Bool) (commands : List String) (s : Script) :
    (runCommands env jumped commands s).2 = (runCommands env false commands s).2 := by
  induction commands generalizing jumped s with
  | nil => rfl
  | cons command rest ih =>
    rw [runCommands, runCommands]
    rcases runCommand env command s with ⟨reaction, t⟩
    cases reaction with
    | ended => rfl
    | jumped => rfl
    | stayed => exact ih jumped t

/-! ## The actions of a line -/

/-- A script that takes note of an action and of what its pattern captured. -/
def setOff (action : Action) (caps : Captures) (s : Script) : Script :=
  let s := { s with scopes := { s.scopes with actionCaptured := Scope.indexed caps } }
  s.debug .actions ("action triggered: " ++ action.command)

theorem sameStand_setOff (action : Action) (caps : Captures) (s : Script) :
    SameStand s (s.setOff action caps) :=
  (s.sameStand_withScopes _).trans (sameStand_debug _ .actions _)

/-- The orders that a line gives to some actions. -/
def ordersOn (env : Env) (line : String) : List Action → Script → List Order
  | [], _ => []
  | action :: rest, s =>
      match env.matcher.regex line (s.scopes.substituteAction env.globals action.pattern) with
      | none => ordersOn env line rest s
      | some caps =>
          let commands := Action.splitCommands action.command
          let s := s.setOff action caps
          let front := ordersOf env commands s
          front ++ if .ended ∈ front.map (·.reaction env) then []
            else ordersOn env line rest (runCommands env false commands s).2

/-- An action that is set off passes on to the next one, unless one of its orders ends the
script. -/
theorem trigger_cons_of_some {line : String} {action : Action} {caps : Captures} (jumped : Bool)
    (h : env.matcher.regex line (s.scopes.substituteAction env.globals action.pattern) = some caps)
    (rest : List Action) :
    let commands := Action.splitCommands action.command
    let reactions := (ordersOf env commands (s.setOff action caps)).map (·.reaction env)
    let t := (runCommands env false commands (s.setOff action caps)).2
    trigger env line jumped (action :: rest) s =
      if .ended ∈ reactions then (.ended, t)
      else trigger env line (Reaction.overall jumped reactions == .jumped) rest t := by
  intro commands reactions t
  have hrun : runCommands env jumped (Action.splitCommands action.command) (s.setOff action caps) =
      (Reaction.overall jumped reactions, t) :=
    Prod.ext (fst_runCommands env jumped commands _) (snd_runCommands env jumped commands _)
  unfold setOff at hrun
  rw [trigger, h]
  dsimp only at hrun ⊢
  rw [hrun]
  by_cases hended : .ended ∈ reactions
  · rw [if_pos hended, Reaction.overall_eq_ended_iff.mpr hended]
  · rw [if_neg hended]
    cases hoverall : Reaction.overall jumped reactions with
    | ended => exact absurd (Reaction.overall_eq_ended_iff.mp hoverall) hended
    | jumped => rfl
    | stayed => rfl

/-! ## From the first order to the last -/

/-- Orders are carried out one after another.  In between, the script may take note of things, but
stays where it stands. -/
inductive Carries (env : Env) : Script → List Order → Script → Prop where
  | nil (s : Script) : Carries env s [] s
  | note {s t u : Script} {orders : List Order} (h : SameStand s t)
      (rest : Carries env t orders u) : Carries env s orders u
  | cons {o : Order} {u : Script} {orders : List Order}
      (rest : Carries env (o.outcome env).2 orders u) : Carries env o.script (o :: orders) u

theorem Carries.append {front back : List Order} (h : Carries env s front t)
    (h' : Carries env t back u) : Carries env s (front ++ back) u := by
  induction h with
  | nil => exact h'
  | note hsame _ ih => exact .note hsame (ih h')
  | cons _ ih => exact .cons (ih h')

/-- What every order keeps, and what does not depend on more than where the script stands, is kept
by all of them together. -/
theorem Carries.related {R : Script → Script → Prop} (note : ∀ {s t}, SameStand s t → R s t)
    (trans : ∀ {s t u}, R s t → R t u → R s u) {orders : List Order} (h : Carries env s orders t)
    (keep : ∀ o ∈ orders, R o.script (o.outcome env).2) : R s t := by
  induction h with
  | nil s => exact note (.refl s)
  | note hsame _ ih => exact trans (note hsame) (ih keep)
  | cons _ ih =>
    have hfirst := keep _ (List.mem_cons_self ..)
    exact trans hfirst (ih fun o ho => keep o (List.mem_cons_of_mem _ ho))

theorem carries_runCommands (env : Env) (jumped : Bool) (commands : List String) (s : Script) :
    Carries env s (ordersOf env commands s) (runCommands env jumped commands s).2 := by
  induction commands generalizing jumped s with
  | nil => exact .nil s
  | cons command rest ih =>
    have hscript : (s.order env command).script = s := rfl
    rw [runCommands, runCommand_eq, ordersOf]
    cases (s.order env command).reaction env with
    | ended => exact hscript ▸ .cons (.nil _)
    | jumped => exact hscript ▸ .cons (ih true _)
    | stayed => exact hscript ▸ .cons (ih jumped _)

/-- **What a line sets off is what its orders do one after another**, and whether the script has to
end or to run on is decided by their reactions. -/
theorem carries_trigger (env : Env) (line : String) (jumped : Bool) (actions : List Action)
    (s : Script) :
    Carries env s (ordersOn env line actions s) (trigger env line jumped actions s).2 ∧
      (trigger env line jumped actions s).1 =
        Reaction.overall jumped ((ordersOn env line actions s).map (·.reaction env)) := by
  induction actions generalizing jumped s with
  | nil => exact ⟨.nil s, rfl⟩
  | cons action rest ih =>
    cases hmatch : env.matcher.regex line
        (s.scopes.substituteAction env.globals action.pattern) with
    | none =>
      rw [trigger, ordersOn, hmatch]
      exact ih jumped s
    | some caps =>
      have hcarries := carries_runCommands env false (Action.splitCommands action.command)
        (s.setOff action caps)
      rw [trigger_cons_of_some jumped hmatch rest, ordersOn, hmatch]
      by_cases hended : .ended ∈ (ordersOf env (Action.splitCommands action.command)
          (s.setOff action caps)).map (·.reaction env)
      · simp only [if_pos hended, List.append_nil]
        exact ⟨.note (sameStand_setOff action caps s) hcarries,
          (Reaction.overall_eq_ended_iff.mpr hended).symm⟩
      · obtain ⟨hrest, hoverall⟩ := ih (Reaction.overall jumped
          ((ordersOf env (Action.splitCommands action.command) (s.setOff action caps)).map
            (·.reaction env)) == .jumped) _
        simp only [if_neg hended]
        refine ⟨.note (sameStand_setOff action caps s) (hcarries.append hrest), ?_⟩
        rw [List.map_append, Reaction.overall_append, hoverall]
        split
        · next h => exact absurd (Reaction.overall_eq_ended_iff.mp h) hended
        · rfl

/-- The orders that a line gives to a script. -/
def orders (env : Env) (line : String) (s : Script) : List Order :=
  ordersOn env line (s.actions.filter (·.enabled)) s

/-- What comes of the actions that a line sets off. -/
def react (env : Env) (line : String) (s : Script) : Reaction × Script :=
  trigger env line false (s.actions.filter (·.enabled)) s

theorem carries_react (env : Env) (line : String) (s : Script) :
    Carries env s (s.orders env line) (s.react env line).2 :=
  (carries_trigger env line false _ s).1

theorem fst_react (env : Env) (line : String) (s : Script) :
    (s.react env line).1 =
      Reaction.overall false ((s.orders env line).map (·.reaction env)) :=
  (carries_trigger env line false _ s).2

/-- A script stays where it stands exactly when no order makes it end or run on. -/
theorem fst_react_eq_stayed_iff {line : String} :
    (s.react env line).1 = .stayed ↔ ∀ o ∈ s.orders env line, o.reaction env = .stayed := by
  rw [fst_react, Reaction.overall_eq_stayed_iff]
  simp

theorem react_of_stayed {line : String} (h : ∀ o ∈ s.orders env line, o.reaction env = .stayed) :
    s.react env line = (.stayed, (s.react env line).2) :=
  Prod.ext (fst_react_eq_stayed_iff.mpr h) rfl

/-! ## Commands without variables -/

/-- Whether a text refers to no variable. -/
def isPlain (text : String) : Bool :=
  text.toList.all fun c => c != '$' && c != '%' && c != '&'

theorem isSigil_actionSigils (scopes : Scopes) (globals : Store) (c : Char) :
    (scopes.actionSigils globals).isSigil c = ('$' == c || '%' == c) := by
  simp [Scopes.actionSigils, Sigils.isSigil, Sigils.register]

theorem substituteAction_of_isPlain (scopes : Scopes) (globals : Store) {text : String}
    (h : isPlain text = true) : scopes.substituteAction globals text = text := by
  refine Sigils.substitute_eq_self (List.any_eq_false.mpr fun c hc => ?_)
  have hne := List.all_eq_true.mp h c hc
  simp only [Bool.and_eq_true, bne_iff_ne] at hne
  simp [isSigil_actionSigils, hne.1.1.symm, hne.1.2.symm]

theorem order_of_isPlain {command : String} (h : isPlain command = true) (env : Env) (s : Script) :
    s.order env command = ⟨command, s⟩ := by
  rw [order, substituteAction_of_isPlain _ _ h]

/-- What a line does that sets off one action whose pattern has no variables. -/
theorem react_of_one_action {line : String} {action : Action} {caps : Captures}
    (hactions : s.actions.filter (·.enabled) = [action]) (hpattern : isPlain action.pattern = true)
    (hmatch : env.matcher.regex line action.pattern = some caps) :
    s.orders env line = ordersOf env (Action.splitCommands action.command) (s.setOff action caps) ∧
      s.react env line =
        runCommands env false (Action.splitCommands action.command) (s.setOff action caps) := by
  have hset : env.matcher.regex line (s.scopes.substituteAction env.globals action.pattern) =
      some caps := by
    rw [substituteAction_of_isPlain _ _ hpattern, hmatch]
  have horders : s.orders env line =
      ordersOf env (Action.splitCommands action.command) (s.setOff action caps) := by
    rw [orders, hactions, ordersOn, hset]
    simp [ordersOn]
  refine ⟨horders, Prod.ext ?_ ?_⟩
  · rw [fst_react, horders, fst_runCommands]
  · rw [react, hactions, trigger_cons_of_some false hset []]
    split <;> rfl

/-- What a line does that sets off one action of one command, neither of which has variables. -/
theorem react_of_one_command {line : String} {action : Action} {caps : Captures} {command : String}
    (hactions : s.actions.filter (·.enabled) = [action])
    (hcommands : Action.splitCommands action.command = [command])
    (hpattern : isPlain action.pattern = true) (hcommand : isPlain command = true)
    (hmatch : env.matcher.regex line action.pattern = some caps) :
    s.orders env line = [⟨command, s.setOff action caps⟩] ∧
      s.react env line = (Order.reaction env ⟨command, s.setOff action caps⟩,
        (Order.outcome env ⟨command, s.setOff action caps⟩).2) := by
  obtain ⟨horders, hreact⟩ := react_of_one_action hactions hpattern hmatch
  rw [horders, hreact, hcommands, ordersOf, runCommands, runCommand_eq, order_of_isPlain hcommand]
  cases Order.reaction env ⟨command, s.setOff action caps⟩ <;> exact ⟨rfl, rfl⟩

/-! ### A script with one action -/

/-- A program that carries out a command whenever it is told to stop, and waits for another room
before it runs some lines. -/
def watching (command : String) (rest : List String) : Program where
  name := "watching"
  lines := ((("action " ++ command ++ " when Stop") :: "nextroom" :: rest).mapIdx
    fun i text => .ofText "watching" (i + 1) text).toArray

/-- The script of `watching` where it waits. -/
def watcher (command : String) (rest : List String) : Script :=
  start {} [] (ofProgram (watching command rest) {})

/-- The action of `watching`. -/
def watch (command : String) : Action :=
  ⟨"", command, "Stop", true⟩

/-- The order that `watching` gets when it is told to stop. -/
def watchOrder (command : String) (rest : List String) : Order :=
  ⟨command, (watcher command rest).setOff (watch command) ["Stop"]⟩

theorem react_watcher (command : String) (rest : List String) {reaction : Reaction}
    (hactions : (watcher command rest).actions = [watch command])
    (hcommands : Action.splitCommands command = [command]) (hcommand : isPlain command = true)
    (hreaction : (watchOrder command rest).reaction {} = reaction) :
    (watcher command rest).orders {} "Stop" = [watchOrder command rest] ∧
      (watcher command rest).react {} "Stop" =
        (reaction, ((watchOrder command rest).outcome {}).2) := by
  have hpattern : isPlain "Stop" = true := by decide
  have hmatch : ({} : Env).matcher.regex "Stop" "Stop" = some ["Stop"] := by decide +kernel
  rw [← hreaction]
  refine react_of_one_command ?_ hcommands hpattern hcommand hmatch
  rw [hactions]
  rfl

end Script

end StreamScript
