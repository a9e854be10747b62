import Mathlib.Data.List.Forall2
import StreamScript.Proofs.Events.Orders
import StreamScript.Proofs.LeadingText
import StreamScript.Proofs.NestedIndices
import StreamScript.Proofs.Words

/-!
# Actions that only send something out

What a line captures comes from the other side, and an action puts it into its
commands before they are read.  Someone who knows the actions of a script might
therefore try to send a line whose captured part makes a command out of what was
meant as text.

For commands that only send something out this does not work.  An action is divided
into commands before variables are put in, so no captured semicolon divides one.
The first word of a command stands in front of its first reference, so putting
variables in leaves it alone (`Output.exists_substituteAction`), and it alone decides
which statement is read (`Output.read?_eq`).  What is read is then taken verbatim.  So
every command sends out one event, whose kind its author has chosen, and nothing else
about the script changes (`trigger_of_outputs`).
-/

namespace StreamScript

open Text

/-! ## Commands that send something out -/

/-- The ways to send something out. -/
inductive Output where
  | echo
  | put
  | send
  | printBox
  deriving DecidableEq, Repr

namespace Output

/-- The word that a command starts with, in small letters. -/
def keyword : Output → List Char
  | .echo => "echo".toList
  | .put => "put".toList
  | .send => "send".toList
  | .printBox => "printbox".toList

/-- The statement that sends out a text. -/
def statement (text : String) : Output → Statement
  | .echo => .echo text
  | .put => .put text
  | .send => .send text
  | .printBox => .printBox text

/-- What is sent out. -/
def event (text : String) : Output → Event
  | .echo => .echo text
  | .put => .command text
  | .send => .command ("#send " ++ text)
  | .printBox => .command ("#printbox " ++ text)

/-- A command starts with a word, in any case. -/
def Heads (o : Output) (command : String) : Prop :=
  lowerAscii (nextWord command.toList).1 = o.keyword

instance (o : Output) (command : String) : Decidable (o.Heads command) :=
  inferInstanceAs (Decidable (_ = _))

variable {o : Output} {blanks word tail : List Char}

/-! ### Reading them -/

theorem isAlpha_of_mem_keyword (h : lowerAscii word = o.keyword) :
    ∀ c ∈ word, c.isAlpha = true := by
  intro c hc
  have hmem : c.toLower ∈ o.keyword := h ▸ List.mem_map_of_mem hc
  have hlower : o.keyword.all Char.isLower = true := by cases o <;> decide
  exact isAlpha_of_isLower_toLower (List.all_eq_true.mp hlower _ hmem)

theorem isBlank_of_mem_keyword (h : lowerAscii word = o.keyword) :
    ∀ c ∈ word, isBlank c = false :=
  fun c hc => isBlank_of_isAlpha (isAlpha_of_mem_keyword h c hc)

theorem ne_nil_of_keyword (h : lowerAscii word = o.keyword) : word ≠ [] := by
  rintro rfl
  cases o <;> cases h

theorem afterText?_eq_none {text : String} (h : lowerAscii word = o.keyword)
    (hne : o.keyword.take text.toList.length ≠ lowerAscii text.toList) :
    Statement.afterText? text word = none := by
  rw [Statement.afterText?]
  refine if_neg fun heq => hne ?_
  rw [← h, lowerAscii, ← List.map_take]
  exact beq_iff_eq.mp heq

theorem labelOfWord?_eq_none (h : lowerAscii word = o.keyword) : labelOfWord? word = none := by
  rw [labelOfWord?]
  split
  · next hlast =>
    have halpha := isAlpha_of_mem_keyword h ':' (List.mem_of_getLast? hlast)
    exact absurd halpha (by decide)
  · rfl

/-- A line that starts with the word of an output is a line of words. -/
theorem readLine?_eq (inner : List Char → Option Statement) (h : lowerAscii word = o.keyword)
    (tail : List Char) :
    Statement.readLine? inner (word ++ tail) = Statement.readWords? inner (word ++ tail) := by
  obtain ⟨c, rest, rfl⟩ := List.exists_cons_of_ne_nil (ne_nil_of_keyword h)
  have halpha := isAlpha_of_mem_keyword h c (List.mem_cons_self ..)
  rw [List.cons_append]
  unfold Statement.readLine?
  split
  · next heq => cases heq
  · next heq => cases heq; cases halpha
  · next heq => cases heq; cases halpha
  · next heq => cases heq; cases halpha
  · rfl

/-- It is read as that output of what stands behind the word. -/
theorem readWords?_eq (inner : List Char → Option Statement) (h : lowerAscii word = o.keyword)
    (htail : ∀ c, tail.head? = some c → isBlank c = true) :
    Statement.readWords? inner (word ++ tail) = some (o.statement (Statement.piece tail)) := by
  have hword := nextWord_append (List.forall_mem_nil fun c => isBlank c = true)
    (isBlank_of_mem_keyword h) (ne_nil_of_keyword h) htail
  have hargs : Statement.argCount? word = none := by
    rw [Statement.argCount?, afterText?_eq_none h (by cases o <;> decide)]
    rfl
  rw [List.nil_append] at hword
  rw [Statement.readWords?, hword]
  dsimp only
  rw [labelOfWord?_eq_none h, hargs, afterText?_eq_none h (by cases o <;> decide),
    afterText?_eq_none h (by cases o <;> decide), h]
  cases o <;> rfl

/-- **The first word of a command decides alone which statement it is.** -/
theorem read?_eq {text : String} (htext : text.toList = blanks ++ (word ++ tail))
    (hblanks : ∀ c ∈ blanks, isBlank c = true) (h : lowerAscii word = o.keyword)
    (htail : ∀ c, tail.head? = some c → isBlank c = true) :
    Statement.read? text = some (o.statement (Statement.piece tail)) := by
  have hpiece : Statement.piece (trimEnd tail) = Statement.piece tail := by
    rw [Statement.piece, trim_trimEnd, Statement.piece]
  have hstart : trimStart (blanks ++ (word ++ tail)) = word ++ tail := by
    rw [Statement.trimStart_append hblanks]
    refine Statement.trimStart_eq_self fun c hc => ?_
    rw [List.head?_append_of_ne_nil _ (ne_nil_of_keyword h)] at hc
    exact isBlank_of_mem_keyword h c (List.mem_of_mem_head? hc)
  have htail' : ∀ c, (trimEnd tail).head? = some c → isBlank c = true := by
    intro c hc
    have hne : trimEnd tail ≠ [] := by
      rintro hnil
      rw [hnil] at hc
      cases hc
    exact htail c (Statement.head?_trimEnd hne ▸ hc)
  rw [Statement.read?, Statement.readChars?, htext, trim, hstart,
    trimEnd_word_append (isBlank_of_mem_keyword h), readLine?_eq _ h, readWords?_eq _ h htail',
    hpiece]

/-! ### Putting variables in -/

/-- No reference starts in the first word of such a command, nor in the blanks around it. -/
theorem inert_of_keyword (scopes : Scopes) (globals : Store) {front : List Char}
    (h : ∀ c ∈ front, isBlank c = true ∨ c.isAlpha = true) :
    Substitution.Inert (scopes.actionSigils globals) front := by
  intro c hc
  have hne : ∀ d, isBlank d = false → d.isAlpha = false → (d == c) = false := by
    rintro d hblank halpha
    refine beq_false_of_ne ?_
    rintro rfl
    rcases h d hc with h | h
    · cases hblank.symm.trans h
    · cases halpha.symm.trans h
  have hdollar := hne '$' (by decide) (by decide)
  have hpercent := hne '%' (by decide) (by decide)
  have hamp := hne '&' (by decide) (by decide)
  rw [Script.isSigil_actionSigils, hdollar, hpercent, Substitution.isIndexSigil, Bool.beq_comm,
    hdollar, Bool.beq_comm, hpercent, Bool.beq_comm, hamp]
  exact ⟨rfl, rfl⟩

/-- **Putting variables into such a command leaves its first word alone.** -/
theorem exists_substituteAction (scopes : Scopes) (globals : Store) {command : String}
    (h : o.Heads command) :
    ∃ blanks word tail, (scopes.substituteAction globals command).toList =
        blanks ++ (word ++ tail) ∧
      (∀ c ∈ blanks, isBlank c = true) ∧ lowerAscii word = o.keyword ∧
      ∀ c, tail.head? = some c → isBlank c = true := by
  obtain ⟨blanks, hblanks, hcommand, -, htail⟩ := exists_nextWord command.toList
  generalize (nextWord command.toList).2 = tail at hcommand htail
  have hword : ∀ c ∈ (nextWord command.toList).1, c.isAlpha = true := isAlpha_of_mem_keyword h
  cases tail with
  | nil =>
    have hinert : Substitution.Inert (scopes.actionSigils globals) command.toList := by
      refine inert_of_keyword scopes globals fun c hc => ?_
      rw [hcommand, List.append_nil] at hc
      exact (List.mem_append.mp hc).imp (hblanks c) (hword c)
    have hself : scopes.substituteAction globals command = command :=
      Sigils.substitute_eq_self (List.any_eq_false.mpr fun c hc =>
        Bool.eq_false_iff.mp (hinert c hc).2)
    exact ⟨blanks, _, [], (congrArg String.toList hself).trans hcommand, hblanks, h, htail⟩
  | cons d tail =>
    have hd := htail d rfl
    have hinert : Substitution.Inert (scopes.actionSigils globals)
        (blanks ++ ((nextWord command.toList).1 ++ [d])) := by
      refine inert_of_keyword scopes globals fun c hc => ?_
      rcases List.mem_append.mp hc with hc | hc
      · exact .inl (hblanks c hc)
      · rcases List.mem_append.mp hc with hc | hc
        · exact .inr (hword c hc)
        · exact .inl (List.mem_singleton.mp hc ▸ hd)
    have hfront : blanks ++ ((nextWord command.toList).1 ++ [d]) <+: command.toList :=
      ⟨tail, by rw [List.append_assoc, List.append_assoc]; exact hcommand.symm⟩
    obtain ⟨rest, hrest⟩ := Sigils.leads_substitute hinert hfront
    refine ⟨blanks, _, d :: rest, ?_, hblanks, h, fun c hc => Option.some.inj hc ▸ hd⟩
    rw [Scopes.substituteAction, ← hrest, List.append_assoc, List.append_assoc]
    rfl

end Output

/-! ## Carrying them out -/

namespace Script

variable {env : Env} {s : Script} {o : Output} {command : String}

/-- The text that a command of an action sends out: what stands behind its first word once
variables have been put in. -/
def saying (env : Env) (command : String) (s : Script) : String :=
  Statement.piece (nextWord (s.scopes.substituteAction env.globals command).toList).2

theorem statement?_order (h : o.Heads command) (env : Env) (s : Script) :
    (s.order env command).statement? = some (o.statement (s.saying env command)) := by
  obtain ⟨blanks, word, tail, htext, hblanks, hword, htail⟩ :=
    Output.exists_substituteAction s.scopes env.globals h
  have hnext := nextWord_append hblanks (Output.isBlank_of_mem_keyword hword)
    (Output.ne_nil_of_keyword hword) htail
  rw [saying, htext, hnext]
  exact Output.read?_eq htext hblanks hword htail

theorem execute_output (o : Output) (env : Env) (text : String) (s : Script) :
    execute env (o.statement text) (s.setVerbatim true) =
      (.next, (s.emit (o.event text)).setVerbatim true) := by
  cases o <;> rfl

theorem setVerbatim_eq_self {on : Bool} (h : s.scopes.verbatim = on) : s.setVerbatim on = s := by
  rw [setVerbatim, ← h]

/-- **A command that only sends something out does so once**, and nothing else. -/
theorem runCommand_of_output (h : o.Heads command) (hverbatim : s.scopes.verbatim = false) :
    runCommand env command s = (.stayed, s.emit (o.event (s.saying env command))) := by
  have hjump : isJump (o.statement (s.saying env command)) = false := by cases o <;> rfl
  have hself : (s.emit (o.event (s.saying env command))).setVerbatim false =
      s.emit (o.event (s.saying env command)) := setVerbatim_eq_self hverbatim
  have houtcome : (s.order env command).outcome env =
      (.next, s.emit (o.event (s.saying env command))) := by
    rw [Order.outcome, statement?_order h, order]
    dsimp only
    rw [execute_output]
    exact Prod.ext rfl hself
  rw [runCommand_eq, Order.reaction, houtcome, statement?_order h, Option.any_some, hjump]
  rfl

/-- A script that has sent out several things more. -/
def emitAll (events : List Event) (s : Script) : Script :=
  { s with log := s.log ++ events }

theorem emitAll_nil (s : Script) : s.emitAll [] = s := by
  rw [emitAll, Array.appendList_nil]

theorem emitAll_cons (event : Event) (events : List Event) (s : Script) :
    s.emitAll (event :: events) = (s.emit event).emitAll events := by
  rw [emitAll, Array.appendList_cons]
  rfl

/-- What several commands send out. -/
def said (env : Env) (outputs : List Output) (commands : List String) (s : Script) : List Event :=
  List.zipWith (fun o command => o.event (s.saying env command)) outputs commands

/-- Commands that only send something out do so one after another. -/
theorem runCommands_of_outputs {outputs : List Output} {commands : List String} (jumped : Bool)
    (h : List.Forall₂ Output.Heads outputs commands) (hverbatim : s.scopes.verbatim = false) :
    runCommands env jumped commands s =
      (if jumped then .jumped else .stayed, s.emitAll (s.said env outputs commands)) := by
  induction h generalizing s with
  | nil => rw [runCommands, said, List.zipWith_nil_left, emitAll_nil]
  | @cons o command outputs commands hfirst _ ih =>
    have hsent : (s.emit (o.event (s.saying env command))).scopes.verbatim = false := hverbatim
    rw [runCommands, runCommand_of_output hfirst hverbatim]
    dsimp only
    rw [ih hsent, said, said, List.zipWith_cons_cons, emitAll_cons]
    rfl

/-! ## Actions of such commands -/

theorem debug_of_quiet (h : s.debugLevel = .quiet) (level : DebugLevel) (message : String) :
    s.debug level message = s := by
  refine if_neg fun hlevel => ?_
  have hle : level.rank ≤ 0 := by simpa [h, DebugLevel.rank] using hlevel.1
  omega

/-- **What a line captures cannot make commands.**  An action whose commands start with the words
of outputs sends out one event for each of its commands, of the kind that the word says, and
changes nothing else but what its pattern captured.  Between two commands no text is taken verbatim,
as `Sound` says of every state that calls lead to. -/
theorem trigger_of_outputs {line : String} {action : Action} {caps : Captures}
    {outputs : List Output} (jumped : Bool) (rest : List Action)
    (hcommands : List.Forall₂ Output.Heads outputs (Action.splitCommands action.command))
    (hmatch : env.matcher.regex line (s.scopes.substituteAction env.globals action.pattern) =
      some caps)
    (hlevel : s.debugLevel = .quiet) (hverbatim : s.scopes.verbatim = false) :
    let t := { s with scopes := { s.scopes with actionCaptured := Scope.indexed caps } }
    let events := List.zipWith (fun o command => o.event (t.saying env command)) outputs
      (Action.splitCommands action.command)
    events.length = (Action.splitCommands action.command).length ∧
      trigger env line jumped (action :: rest) s =
        trigger env line jumped rest { t with log := s.log ++ events } := by
  intro t events
  have hlength : events.length = (Action.splitCommands action.command).length := by
    rw [List.length_zipWith, hcommands.length_eq, Nat.min_self]
  have hquiet : t.debugLevel = .quiet := hlevel
  have hrun : runCommands env jumped (Action.splitCommands action.command) t =
      (if jumped then .jumped else .stayed, t.emitAll events) :=
    runCommands_of_outputs jumped hcommands hverbatim
  rw [trigger, hmatch]
  dsimp only
  rw [debug_of_quiet hquiet, hrun]
  exact ⟨hlength, by cases jumped <;> rfl⟩

theorem substitute_of_within {sg : Sigils} {text : String} {cs : List Char} (depth : Nat)
    (h : Substitution.within sg depth text.toList = some cs) :
    sg.substitute text = String.ofList cs := by
  rw [Sigils.substitute, Substitution.within_extends_result? sg depth _ _ h]

theorem saying_of_within (depth : Nat) (cs : List Char)
    (h : Substitution.within (s.scopes.actionSigils env.globals) depth command.toList = some cs) :
    s.saying env command = Statement.piece (nextWord cs).2 := by
  rw [saying, Scopes.substituteAction, substitute_of_within depth h, String.toList_ofList]

/-- A program that welcomes every guest. -/
def doorman : Program where
  name := "doorman"
  lines := #[.ofText "doorman" 1 "action Echo Welcome, $1!;PUT look $1 when Guest (.*)",
    .ofText "doorman" 2 "nextroom"]

/-- The script of `doorman` where it waits. -/
def onGuard : Script :=
  start {} [] (ofProgram doorman {})

/-- The action of `doorman`. -/
def welcome : Action :=
  ⟨"", "Echo Welcome, $1!;PUT look $1", "Guest (.*)", true⟩

/-- A guest whose name holds a command, a reference and a brace is welcomed like any other. -/
theorem trigger_welcome :
    let caps := ["Guest x;put %argcount\x7d", "x;put %argcount\x7d"]
    let t := { onGuard with
      scopes := { onGuard.scopes with actionCaptured := Scope.indexed caps } }
    let events : List Event := [.echo "Welcome, x;put 0\x7d!", .command "look x;put 0\x7d"]
    onGuard.actions = [welcome] ∧ onGuard.debugLevel = .quiet ∧
      onGuard.scopes.verbatim = false ∧
      List.Forall₂ Output.Heads [.echo, .put] (Action.splitCommands welcome.command) ∧
      ({} : Env).matcher.regex "Guest x;put %argcount\x7d"
        (onGuard.scopes.substituteAction ({} : Env).globals welcome.pattern) = some caps ∧
      trigger {} "Guest x;put %argcount\x7d" false [welcome] onGuard =
        (.stayed, { t with log := onGuard.log ++ events }) := by
  intro caps t events
  have hactions : onGuard.actions = [welcome] := by decide +kernel
  have hlevel : onGuard.debugLevel = .quiet := by decide +kernel
  have hverbatim : onGuard.scopes.verbatim = false := by decide +kernel
  have hsplit : Action.splitCommands welcome.command = ["Echo Welcome, $1!", "PUT look $1"] := by
    decide +kernel
  have hheads : List.Forall₂ Output.Heads [.echo, .put] (Action.splitCommands welcome.command) :=
    hsplit ▸ .cons (by decide +kernel) (.cons (by decide +kernel) .nil)
  have hmatch : ({} : Env).matcher.regex "Guest x;put %argcount\x7d"
      (onGuard.scopes.substituteAction ({} : Env).globals welcome.pattern) = some caps := by
    rw [substituteAction_of_isPlain _ _ (by decide +kernel)]
    decide +kernel
  have hecho : t.saying {} "Echo Welcome, $1!" = "Welcome, x;put 0\x7d!" := by
    rw [saying_of_within 1 "Echo Welcome, x;put 0\x7d!".toList (by decide +kernel)]
    decide +kernel
  have hput : t.saying {} "PUT look $1" = "look x;put 0\x7d" := by
    rw [saying_of_within 1 "PUT look x;put 0\x7d".toList (by decide +kernel)]
    decide +kernel
  have hevents : List.zipWith (fun o command => Output.event (t.saying {} command) o) [.echo, .put]
      (Action.splitCommands welcome.command) = events := by
    rw [hsplit, List.zipWith_cons_cons, List.zipWith_cons_cons, List.zipWith_nil_left, hecho, hput]
    rfl
  have htrigger := (trigger_of_outputs false [] hheads hmatch hlevel hverbatim).2
  rw [← hevents]
  exact ⟨hactions, hlevel, hverbatim, hheads, hmatch, htrigger⟩

end Script

end StreamScript
