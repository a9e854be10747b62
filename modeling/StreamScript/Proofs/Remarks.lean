import StreamScript.Proofs.Course

/-!
# What a script says

Everything that a script sends out is an echo, a command, or a message.  Most
messages are remarks: they stand behind the place of a line, or behind the name of
the script where no line has run.  The others tell about the life of the script,
and only one of them, which tells that it is over, is not a remark in the sense of
`Program.IsRemark`.

`Speaks` relates two states that differ in nothing but what a statement may change
and in remarks that were added to the log.  It says at once what no statement
touches: the program, the trace, the mark to run on, and whether text is taken
verbatim.  `speaks_execute` puts the operations together.  The lines of the trace are
shown when a script runs in circles, so that what is added to the log are remarks
only where the trace holds remarks (`Traced`).
-/

namespace StreamScript

/-! ## Remarks -/

namespace Program

/-- What stands in front of a message: the place of a line, or the name of the script. -/
inductive IsPlace (program : Program) : String → Prop where
  | line {line : Line} (h : line ∈ program.lines) : IsPlace program line.location
  | name : IsPlace program ("[" ++ program.name ++ "]")

/-- What a script sends out, except for the message that it is over. -/
inductive IsRemark (program : Program) : Event → Prop where
  | echo (text : String) : IsRemark program (.echo text)
  | command (text : String) : IsRemark program (.command text)
  | message {place : String} (h : program.IsPlace place) (text : String) :
      IsRemark program (.status (place ++ ": " ++ text))
  | starting : IsRemark program (.status ("[Starting '" ++ program.name ++ "']"))
  | pausing : IsRemark program (.status ("[Pausing '" ++ program.name ++ "']"))
  | resuming : IsRemark program (.status ("[Resuming '" ++ program.name ++ "']"))

end Program

namespace Script

variable {s t u : Script}

/-- Two states of which the second has added remarks to the log of the first. -/
def Tells (program : Program) (s t : Script) : Prop :=
  ∃ said, (∀ e ∈ said, program.IsRemark e) ∧ t.log.toList = s.log.toList ++ said

namespace Tells

variable {program : Program}

theorem of_log_eq (h : t.log = s.log) : Tells program s t :=
  ⟨[], List.forall_mem_nil _, by rw [h, List.append_nil]⟩

theorem emit {event : Event} (h : program.IsRemark event) : Tells program s (s.emit event) :=
  ⟨[event], List.forall_mem_singleton.mpr h, Array.toList_push⟩

theorem trans (h : Tells program s t) (h' : Tells program t u) : Tells program s u := by
  obtain ⟨said, hsaid, hlog⟩ := h
  obtain ⟨said', hsaid', hlog'⟩ := h'
  refine ⟨said ++ said', List.forall_mem_append.mpr ⟨hsaid, hsaid'⟩, ?_⟩
  rw [hlog', hlog, List.append_assoc]

end Tells

/-- A script whose trace holds remarks. -/
def Traced (s : Script) : Prop :=
  ∀ entry ∈ s.trace, s.walk.program.IsRemark (.status entry)

/-- Two states that differ in what a statement may change, the second of which has added remarks to
the log of the first. -/
structure Speaks (s t : Script) : Prop where
  program : t.walk.program = s.walk.program
  resumePending : t.resumePending = s.resumePending
  trace : t.trace = s.trace
  verbatim : t.scopes.verbatim = s.scopes.verbatim
  tells : s.Traced → Tells s.walk.program s t

namespace Speaks

theorem refl (s : Script) : Speaks s s :=
  ⟨rfl, rfl, rfl, rfl, fun _ => .of_log_eq rfl⟩

theorem traced (h : Speaks s t) (hs : s.Traced) : t.Traced := by
  rw [Traced, h.trace, h.program]
  exact hs

theorem trans (h : Speaks s t) (h' : Speaks t u) : Speaks s u where
  program := h'.program.trans h.program
  resumePending := h'.resumePending.trans h.resumePending
  trace := h'.trace.trans h.trace
  verbatim := h'.verbatim.trans h.verbatim
  tells hs := (h.tells hs).trans (h.program ▸ h'.tells (h.traced hs))

/-- What sends nothing out and leaves alone what statements leave alone. -/
theorem silent (program : t.walk.program = s.walk.program)
    (resumePending : t.resumePending = s.resumePending) (trace : t.trace = s.trace)
    (verbatim : t.scopes.verbatim = s.scopes.verbatim) (log : t.log = s.log) : Speaks s t :=
  ⟨program, resumePending, trace, verbatim, fun _ => .of_log_eq log⟩

end Speaks

/-! ## Output and variables -/

variable (s)

theorem isPlace_location : s.walk.program.IsPlace s.location := by
  unfold location Walk.line?
  cases s.walk.index? with
  | none => exact .name
  | some idx =>
    dsimp only [Option.bind_some]
    cases hline : s.walk.program.lines[idx]? with
    | none => exact .name
    | some line => exact .line (Array.mem_of_getElem? hline)

theorem speaks_emit {event : Event} (h : s.walk.program.IsRemark event) :
    Speaks s (s.emit event) :=
  ⟨rfl, rfl, rfl, rfl, fun _ => .emit h⟩

theorem speaks_report (message : String) : Speaks s (s.report message) :=
  s.speaks_emit (.message s.isPlace_location message)

theorem speaks_debug (level : DebugLevel) (message : String) :
    Speaks s (s.debug level message) := by
  unfold debug
  split
  · exact s.speaks_report message
  · exact .refl s

theorem speaks_withScopes {scopes : Scopes} (h : scopes.verbatim = s.scopes.verbatim) :
    Speaks s { s with scopes := scopes } :=
  .silent rfl rfl rfl h rfl

theorem speaks_withWalk {walk : Walk} (h : walk.program = s.walk.program) :
    Speaks s { s with walk := walk } :=
  .silent h rfl rfl rfl rfl

theorem speaks_setLocal (name value : String) : Speaks s (s.setLocal name value) :=
  (s.speaks_debug .variables _).trans (speaks_withScopes _ rfl)

theorem speaks_setCaptured (groups : Captures) : Speaks s (s.setCaptured groups) :=
  s.speaks_withScopes rfl

theorem speaks_doMath (env : Env) (var op number : String) :
    Speaks s (s.doMath env var op number) := by
  unfold doMath
  dsimp only
  split
  · exact s.speaks_report _
  · split
    · exact s.speaks_setLocal _ _
    · exact s.speaks_report _

theorem speaks_doRandom (env : Env) (lo hi : String) : Speaks s (s.doRandom env lo hi) := by
  unfold doRandom
  dsimp only
  split
  · refine Speaks.trans ?_ (speaks_setLocal _ _ _)
    exact .silent rfl rfl rfl rfl rfl
  · exact s.speaks_report _

theorem speaks_setDebugLevel (env : Env) (level : String) :
    Speaks s (s.setDebugLevel env level) := by
  unfold setDebugLevel
  dsimp only
  split
  · exact .silent rfl rfl rfl rfl rfl
  · exact s.speaks_report _

theorem verbatim_shiftArgs (scopes : Scopes) : scopes.shiftArgs.verbatim = scopes.verbatim := by
  unfold Scopes.shiftArgs
  split <;> rfl

/-! ## Waits, actions and conditions -/

theorem speaks_await (wait : Wait) : Speaks s (s.await wait).2 :=
  .silent rfl rfl rfl rfl rfl

theorem speaks_setTimer (env : Env) (seconds : Float) (kind : TimerKind) :
    Speaks s (s.setTimer env seconds kind) :=
  .silent rfl rfl rfl rfl rfl

theorem speaks_clearWaits : Speaks s s.clearWaits :=
  .silent rfl rfl rfl rfl rfl

theorem speaks_doMatchWait (env : Env) (timeout : String) :
    Speaks s (s.doMatchWait env timeout) := by
  have hset : Speaks s { s with matchSet? := MatchSet.ofEntries? s.targets } :=
    .silent rfl rfl rfl rfl rfl
  unfold doMatchWait
  dsimp only
  split
  · exact ((hset.trans (speaks_setTimer _ env _ _)).trans (speaks_debug _ .waits _)).trans
      (speaks_await _ .someMatch)
  · exact (hset.trans (speaks_debug _ .waits _)).trans (speaks_await _ .someMatch)

theorem speaks_addAction (action : Action) : Speaks s (s.addAction action) := by
  unfold addAction
  dsimp only
  split <;> exact .silent rfl rfl rfl rfl rfl

theorem speaks_decideCondition (env : Env) (condition : Phrase) :
    Speaks s (s.decideCondition env condition).2 := by
  unfold decideCondition
  dsimp only
  split
  · exact s.speaks_debug .conditions _
  · exact (s.speaks_debug .conditions _).trans (speaks_setCaptured _ _)

theorem speaks_decideHead (env : Env) (head : Head) : Speaks s (s.decideHead env head).2 := by
  cases head with
  | ifHolds condition => exact s.speaks_decideCondition env condition
  | elseIf condition => exact s.speaks_decideCondition env condition
  | otherwise => exact .refl s
  | ifArgs count => exact s.speaks_debug .conditions _

/-! ## Jumps -/

/-- The lines of the trace are shown one after another. -/
theorem tells_foldl_status {program : Program} {entries : List String}
    (h : ∀ entry ∈ entries, program.IsRemark (.status entry)) (s : Script) :
    Tells program s (entries.foldl status s) := by
  induction entries generalizing s with
  | nil => exact .of_log_eq rfl
  | cons entry rest ih =>
    rw [List.forall_mem_cons] at h
    exact (Tells.emit h.1).trans (ih h.2 (s.status entry))

theorem foldl_status (entries : List String) (s : Script) :
    entries.foldl status s = { s with log := (entries.foldl status s).log } := by
  induction entries generalizing s with
  | nil => rfl
  | cons entry rest ih => exact (ih (s.status entry)).trans rfl

theorem speaks_reportLoop : Speaks s s.reportLoop := by
  have htold : Speaks (s.report ("Possible infinite loop detected: "
      ++ String.ofList (Number.natText s.guard.count)
      ++ " label jumps without a wait. Last lines:")) s.reportLoop := by
    unfold reportLoop
    dsimp only
    refine ⟨?_, ?_, ?_, ?_, fun hs => tells_foldl_status hs _⟩ <;> rw [foldl_status]
  exact (s.speaks_report _).trans htold

theorem speaks_countJump (env : Env) : Speaks s (countJump env s).2 := by
  have hcount : Speaks s (s.counted env) := .silent rfl rfl rfl rfl rfl
  unfold countJump
  dsimp only
  split
  · exact hcount.trans (speaks_reportLoop _)
  · exact hcount

theorem speaks_bindLabelArgs (env : Env) (args : LabelArgs) :
    Speaks s (s.bindLabelArgs env args) := by
  cases args <;> exact s.speaks_withScopes rfl

theorem speaks_returned (frame : Gosub) : Speaks s (s.returned frame) := by
  refine Speaks.trans ?_ (speaks_debug _ .gosubs _)
  exact .silent rfl rfl rfl rfl rfl

theorem speaks_leave (env : Env) : Speaks s (leave env s).2 := by
  have hpop (outer : List Gosub) : Speaks s { s with gosubs := outer } :=
    .silent rfl rfl rfl rfl rfl
  have hresult := leaveResult env s
  generalize leave env s = r at hresult ⊢
  cases hresult with
  | unopened => exact s.speaks_report _
  | tripped => exact (hpop _).trans (speaks_countJump _ env)
  | @back frame outer =>
    have hcounted : Speaks s (counted env { s with gosubs := outer }) :=
      .silent rfl rfl rfl rfl rfl
    exact hcounted.trans (speaks_returned _ frame)

theorem speaks_arrived (env : Env) (name : String) (target : Label) (args : LabelArgs) :
    Speaks s (s.arrived env name target args) := by
  have hclear : Speaks s { s.clearWaits with
      scopes := { s.scopes with captured := .empty } } := .silent rfl rfl rfl rfl rfl
  have hbind := hclear.trans (speaks_bindLabelArgs _ env args)
  refine Speaks.trans ?_ (speaks_debug _ .gosubs _)
  exact hbind.trans (speaks_withWalk _ rfl)

theorem speaks_goto (env : Env) (label : String) (args : LabelArgs) :
    Speaks s (goto env label args s).2 := by
  have hresult := gotoResult env label args s
  generalize goto env label args s = r at hresult ⊢
  cases hresult with
  | leaves => exact s.speaks_leave env
  | lost => exact s.speaks_report _
  | tripped => exact s.speaks_countJump env
  | lands =>
    have hcounted : Speaks s (s.counted env) := .silent rfl rfl rfl rfl rfl
    exact hcounted.trans (speaks_arrived _ env _ _ args)

theorem speaks_gosub (env : Env) (label args : String) :
    Speaks s (gosub env label args s).2 := by
  have hgoto := s.speaks_goto env label (.text args)
  have hresult := gosubResult env label args s
  generalize gosub env label args s = r at hresult ⊢
  cases hresult with
  | forgets => exact .silent rfl rfl rfl rfl rfl
  | full => exact s.speaks_report _
  | opens => exact hgoto.trans (.silent rfl rfl rfl rfl rfl)
  | fails => exact hgoto

/-! ## Conditionals -/

theorem keptByConditionals_speaks (env : Env) : KeptByConditionals env Speaks where
  refl := .refl
  trans := .trans
  withWalk := speaks_withWalk _
  report s := s.speaks_report
  decideHead s := s.speaks_decideHead env

theorem speaks_closeSingle (line : Line) (statement : Statement) :
    Speaks s (s.closeSingle line statement) :=
  (keptByConditionals_speaks {}).closeSingle line statement s

/-! ## Statements -/

/-- **Whatever a statement does, it adds no more than remarks to the log**, and leaves alone what
statements leave alone. -/
theorem speaks_execute (env : Env) (statement : Statement) (s : Script) :
    Speaks s (execute env statement s).2 := by
  have hkept := keptByConditionals_speaks env
  induction statement generalizing s with
  | single head body ih => exact hkept.single ih head s
  | block head brace => exact hkept.block head brace s
  | rightBrace => exact hkept.closeBlock s
  | goto label args => exact s.speaks_goto env label (.text args)
  | gosub label args => exact s.speaks_gosub env label args
  | leave => exact s.speaks_leave env
  | leftBrace | label | comment | exit => exact .refl s
  | shift => exact (s.speaks_withScopes (verbatim_shiftArgs _)).trans (speaks_debug _ .variables _)
  | debug level => exact s.speaks_setDebugLevel env level
  | echo text => exact s.speaks_emit (.echo _)
  | put | send | printBox => exact s.speaks_emit (.command _)
  | move =>
    exact ((s.speaks_emit (.command _)).trans (speaks_debug _ .waits _)).trans (speaks_await _ _)
  | save | setVar | eval | evalMath => exact s.speaks_setLocal _ _
  | unsetVar =>
    refine Speaks.trans ?_ (speaks_debug _ .variables _)
    exact s.speaks_withScopes rfl
  | math var op number => exact s.speaks_doMath env var op number
  | random lo hi => exact s.speaks_doRandom env lo hi
  | pause => exact (s.speaks_debug .waits _).trans (speaks_setTimer _ env _ .pause)
  | matchText | matchRegex => exact .silent rfl rfl rfl rfl rfl
  | matchWait timeout => exact s.speaks_doMatchWait env timeout
  | nextRoom | waitFor | waitForRegex | waitPrompt | waitEval =>
    exact (s.speaks_debug .waits _).trans (speaks_await _ _)
  | action => exact (s.speaks_addAction _).trans (speaks_debug _ .actions _)
  | toggleAction =>
    refine Speaks.trans ?_ (speaks_debug _ .actions _)
    exact .silent rfl rfl rfl rfl rfl

end Script

end StreamScript
