import StreamScript.Proofs.Jumping

/-!
# What leaves the course of a script alone

Most statements send something out, change a variable or arm a wait.  None of
these decides which line runs next: the place in the program, the open
conditionals and subroutines, the phase and the loop guard stay as they were.
`SameCourse` says so of two states.  It asks less than `SameStand`, so what leaves a
script where it stands leaves its course alone, and only the waits have to be
looked at.  `execute_sameCourse` puts them together: only conditionals, closing
braces and jumps (`Statement.steers`) change the course.

What a run does to a program is a matter of these few statements, so the proofs
about runs look at nothing else.  Conditionals and closing braces test, talk and move,
and what holds of these three holds of them (`KeptByConditionals`): they change no more
than the place and what is open there (`SameButPlace`).  The phase is changed by no
statement at all (`phase_execute`).
-/

namespace StreamScript

namespace Statement

/-- Whether a statement can change the course of a script. -/
def steers : Statement → Bool
  | .block .. | .single .. | .rightBrace | .goto .. | .gosub .. | .leave => true
  | _ => false

end Statement

namespace Script

/-- Two states that are at the same place of the same run. -/
structure SameCourse (s t : Script) : Prop where
  walk : t.walk = s.walk
  phase : t.phase = s.phase
  guard : t.guard = s.guard
  readings : s.readings ≤ t.readings
  gosubs : t.gosubs = s.gosubs

variable {s t u : Script} {env : Env}

theorem SameStand.sameCourse (h : SameStand s t) : SameCourse s t :=
  ⟨h.walk, h.phase, h.guard, Nat.le_of_eq h.readings.symm, h.gosubs⟩

namespace SameCourse

theorem refl (s : Script) : SameCourse s s :=
  ⟨rfl, rfl, rfl, Nat.le_refl _, rfl⟩

theorem trans (h : SameCourse s t) (h' : SameCourse t u) : SameCourse s u where
  walk := h'.walk.trans h.walk
  phase := h'.phase.trans h.phase
  guard := h'.guard.trans h.guard
  readings := Nat.le_trans h.readings h'.readings
  gosubs := h'.gosubs.trans h.gosubs

/-! ## Output and variables -/

theorem emit (h : SameCourse s t) (event : Event) : SameCourse s (t.emit event) :=
  h.trans (t.sameStand_emit event).sameCourse

theorem report (h : SameCourse s t) (message : String) : SameCourse s (t.report message) :=
  h.trans (t.sameStand_report message).sameCourse

theorem debug (h : SameCourse s t) (level : DebugLevel) (message : String) :
    SameCourse s (t.debug level message) :=
  h.trans (t.sameStand_debug level message).sameCourse

theorem remember (h : SameCourse s t) (line : Line) : SameCourse s (t.remember line) :=
  h.trans (t.sameStand_remember line).sameCourse

/-! ## Waits -/

theorem await (h : SameCourse s t) (wait : Wait) : SameCourse s (t.await wait).2 :=
  h.trans ⟨rfl, rfl, rfl, Nat.le_refl _, rfl⟩

theorem setTimer (h : SameCourse s t) (env : Env) (seconds : Float) (kind : TimerKind) :
    SameCourse s (t.setTimer env seconds kind) :=
  h.trans ⟨rfl, rfl, rfl, Nat.le_succ _, rfl⟩

theorem doPause (h : SameCourse s t) (env : Env) (seconds : String) :
    SameCourse s (t.doPause env seconds) :=
  (h.debug .waits _).setTimer env _ .pause

theorem doMatchWait (h : SameCourse s t) (env : Env) (timeout : String) :
    SameCourse s (t.doMatchWait env timeout) := by
  have hset : SameCourse s { t with matchSet? := MatchSet.ofEntries? t.targets } :=
    h.trans ⟨rfl, rfl, rfl, Nat.le_refl _, rfl⟩
  unfold Script.doMatchWait
  dsimp only
  -- the timer comes in only when a time is asked for
  split
  · exact (((hset.setTimer env _ .matchTimeout).debug .waits _).await .someMatch)
  · exact ((hset.debug .waits _).await .someMatch)

/-! ## Conditions -/

theorem decideHead (h : SameCourse s t) (env : Env) (head : Head) :
    SameCourse s (t.decideHead env head).2 :=
  h.trans (t.sameStand_decideHead env head).sameCourse

end SameCourse

@[simp] theorem walk_debug (s : Script) (level : DebugLevel) (message : String) :
    (s.debug level message).walk = s.walk :=
  ((SameCourse.refl s).debug level message).walk

@[simp] theorem phase_debug (s : Script) (level : DebugLevel) (message : String) :
    (s.debug level message).phase = s.phase :=
  ((SameCourse.refl s).debug level message).phase

@[simp] theorem guard_debug (s : Script) (level : DebugLevel) (message : String) :
    (s.debug level message).guard = s.guard :=
  ((SameCourse.refl s).debug level message).guard

/-! ## Statements -/

/-- **A statement that does not steer leaves the course alone.** -/
theorem execute_sameCourse (env : Env) {statement : Statement} (h : statement.steers = false)
    (s : Script) : SameCourse s (execute env statement s).2 := by
  have hs : SameCourse s s := .refl s
  cases statement with
  | block | single | rightBrace | goto | gosub | leave => simp [Statement.steers] at h
  | exit => exact hs
  | nextRoom => exact (hs.debug .waits _).await _
  | move text => exact ((hs.emit _).debug .waits _).await _
  | pause seconds => exact hs.doPause env seconds
  | matchText | matchRegex => exact hs.trans ⟨rfl, rfl, rfl, Nat.le_refl _, rfl⟩
  | matchWait timeout => exact hs.doMatchWait env timeout
  | waitFor | waitForRegex | waitPrompt | waitEval => exact (hs.debug .waits _).await _
  | _ => exact (s.execute_sameStand env (by rfl)).2.sameCourse

/-! ## What conditionals do -/

/-- A relation that holds between two states whenever the second comes from the first by what
conditionals and closing braces do: they test, say that something is missing, and change the place
in the program and the conditionals open there. -/
structure KeptByConditionals (env : Env) (R : Script → Script → Prop) : Prop where
  refl : ∀ s, R s s
  trans : ∀ {s t u}, R s t → R t u → R s u
  withWalk : ∀ {s : Script} {walk : Walk}, walk.program = s.walk.program →
    R s { s with walk := walk }
  report : ∀ s message, R s (s.report message)
  decideHead : ∀ s head, R s (s.decideHead env head).2

namespace KeptByConditionals

variable {R : Script → Script → Prop}

theorem enterBlock (h : KeptByConditionals env R) (brace : BracePlace) (s : Script) :
    R s (s.enterBlock brace).2 := by
  cases brace with
  | here => exact h.refl s
  | nextLine =>
    rw [Script.enterBlock, takeBrace]
    split
    · exact h.withWalk rfl
    · exact h.report s _

theorem openIf (h : KeptByConditionals env R) (head : Head) (brace : BracePlace) (idx : Nat)
    (s : Script) : R s (openIf env head brace idx s).2 := by
  have hframe : R s ((s.decideHead env head).2.openFrame ⟨idx, (s.decideHead env head).1⟩) :=
    h.trans (h.decideHead s head) (h.withWalk rfl)
  have henter := h.trans hframe (h.enterBlock brace _)
  unfold Script.openIf
  dsimp only
  split
  · next t heq => rw [heq] at henter; exact henter
  · next t heq => rw [heq] at henter; exact henter

theorem openElse (h : KeptByConditionals env R) (head : Head) (brace : BracePlace) (idx : Nat)
    (s : Script) : R s (openElse env head brace idx s).2 := by
  have henter := h.enterBlock brace s
  unfold Script.openElse
  split
  · next t heq => rw [heq] at henter; exact henter
  · next t heq =>
    rw [heq] at henter
    split
    · exact h.trans (h.trans henter (h.report t _)) (h.withWalk rfl)
    · split
      · exact h.trans henter (h.withWalk rfl)
      · exact h.trans (h.trans henter (h.decideHead t head)) (h.withWalk rfl)

theorem block (h : KeptByConditionals env R) (head : Head) (brace : BracePlace) (s : Script) :
    R s (execute env (.block head brace) s).2 := by
  rw [execute]
  split
  · exact h.refl s
  · cases head with
    | ifHolds | ifArgs => exact h.openIf _ brace _ s
    | elseIf | otherwise => exact h.openElse _ brace _ s

theorem enterSingle (h : KeptByConditionals env R) (head : Head) (idx : Nat) (s : Script) :
    R s (enterSingle env head idx s).2 := by
  have htest := h.decideHead s head
  cases head with
  | ifHolds | ifArgs => exact h.trans htest (h.withWalk rfl)
  | elseIf | otherwise =>
    rw [Script.enterSingle]
    split
    · exact h.report s _
    · split
      · exact h.withWalk rfl
      · exact h.trans htest (h.withWalk rfl)

theorem skipRivals (h : KeptByConditionals env R) (head : Head) (s : Script) :
    R s (s.skipRivals head) := by
  cases head <;> exact h.withWalk rfl

theorem closeBlock (h : KeptByConditionals env R) (s : Script) : R s s.closeBlock.2 := by
  rw [Script.closeBlock]
  split
  · exact h.report s _
  · exact h.withWalk rfl

/-- A conditional on one line keeps what its body keeps, too. -/
theorem single (h : KeptByConditionals env R) {body : Statement}
    (hbody : ∀ s, R s (execute env body s).2) (head : Head) (s : Script) :
    R s (execute env (.single head body) s).2 := by
  rw [execute]
  split
  · exact h.refl s
  · next idx _ =>
    have henter := h.enterSingle head idx s
    split
    · next t heq => rw [heq] at henter; exact henter
    · next t heq =>
      rw [heq] at henter
      have hran := h.trans henter (hbody t)
      dsimp only
      split
      · exact h.trans hran (h.skipRivals head _)
      · exact hran

theorem closeSingle (h : KeptByConditionals env R) (line : Line) (statement : Statement)
    (s : Script) : R s (s.closeSingle line statement) := by
  unfold Script.closeSingle
  split
  · exact h.refl s
  · exact iteInduction (fun _ => h.withWalk rfl) (fun _ => h.refl s)

end KeptByConditionals

/-! ## What conditionals leave alone -/

/-- Two states that differ at most in the place in the program and in the conditionals open there,
besides what is beside the point. -/
structure SameButPlace (s t : Script) : Prop where
  program : t.walk.program = s.walk.program
  phase : t.phase = s.phase
  resumePending : t.resumePending = s.resumePending
  guard : t.guard = s.guard
  readings : t.readings = s.readings
  gosubs : t.gosubs = s.gosubs
  targets : t.targets = s.targets
  matchSet : t.matchSet? = s.matchSet?
  wait : t.wait? = s.wait?
  timer : t.timer? = s.timer?

theorem SameStand.sameButPlace (h : SameStand s t) : SameButPlace s t :=
  ⟨congrArg Walk.program h.walk, h.phase, h.resumePending, h.guard, h.readings, h.gosubs, h.targets,
    h.matchSet, h.wait, h.timer⟩

namespace SameButPlace

theorem refl (s : Script) : SameButPlace s s :=
  (SameStand.refl s).sameButPlace

theorem trans (h : SameButPlace s t) (h' : SameButPlace t u) : SameButPlace s u where
  program := h'.program.trans h.program
  phase := h'.phase.trans h.phase
  resumePending := h'.resumePending.trans h.resumePending
  guard := h'.guard.trans h.guard
  readings := h'.readings.trans h.readings
  gosubs := h'.gosubs.trans h.gosubs
  targets := h'.targets.trans h.targets
  matchSet := h'.matchSet.trans h.matchSet
  wait := h'.wait.trans h.wait
  timer := h'.timer.trans h.timer

theorem isWaiting (h : SameButPlace s t) : t.isWaiting = s.isWaiting := by
  rw [Script.isWaiting, Script.isWaiting, h.wait, h.timer]

theorem withWalk (h : SameButPlace s t) {walk : Walk} (hw : walk.program = t.walk.program) :
    SameButPlace s { t with walk := walk } :=
  h.trans ⟨hw, rfl, rfl, rfl, rfl, rfl, rfl, rfl, rfl, rfl⟩

theorem report (h : SameButPlace s t) (message : String) : SameButPlace s (t.report message) :=
  h.trans (t.sameStand_report message).sameButPlace

theorem decideHead (h : SameButPlace s t) (env : Env) (head : Head) :
    SameButPlace s (t.decideHead env head).2 :=
  h.trans (t.sameStand_decideHead env head).sameButPlace

/-- What holds of states that differ at most in the place is kept. -/
theorem keeps (env : Env) {R : Script → Script → Prop} (h : ∀ {s t}, SameButPlace s t → R s t)
    (htrans : ∀ {s t u}, R s t → R t u → R s u) : KeptByConditionals env R where
  refl s := h (refl s)
  trans := htrans
  withWalk hw := h ((refl _).withWalk hw)
  report s message := h ((refl s).report message)
  decideHead s head := h ((refl s).decideHead env head)

theorem keptByConditionals (env : Env) : KeptByConditionals env SameButPlace :=
  keeps env id trans

theorem enterBlock (h : SameButPlace s t) (brace : BracePlace) :
    SameButPlace s (t.enterBlock brace).2 :=
  h.trans ((keptByConditionals {}).enterBlock brace t)

theorem openIf (env : Env) (head : Head) (brace : BracePlace) (idx : Nat) (s : Script) :
    SameButPlace s (openIf env head brace idx s).2 :=
  (keptByConditionals env).openIf head brace idx s

theorem openElse (env : Env) (head : Head) (brace : BracePlace) (idx : Nat) (s : Script) :
    SameButPlace s (openElse env head brace idx s).2 :=
  (keptByConditionals env).openElse head brace idx s

theorem enterSingle (env : Env) (head : Head) (idx : Nat) (s : Script) :
    SameButPlace s (enterSingle env head idx s).2 :=
  (keptByConditionals env).enterSingle head idx s

theorem skipRivals (head : Head) (s : Script) : SameButPlace s (s.skipRivals head) :=
  (keptByConditionals {}).skipRivals head s

theorem closeBlock (s : Script) : SameButPlace s s.closeBlock.2 :=
  (keptByConditionals {}).closeBlock s

theorem closeSingle (line : Line) (statement : Statement) (s : Script) :
    SameButPlace s (s.closeSingle line statement) :=
  (keptByConditionals {}).closeSingle line statement s

end SameButPlace

/-! ## What no statement changes -/

theorem phase_countJump (env : Env) (s : Script) : (countJump env s).2.phase = s.phase :=
  (sameStand_countJump env s).phase

theorem phase_leave (env : Env) (s : Script) : (leave env s).2.phase = s.phase := by
  have hresult := leaveResult env s
  generalize leave env s = r at hresult ⊢
  cases hresult with
  | unopened => exact (s.sameStand_report _).phase
  | tripped => exact phase_countJump env _
  | back => exact (sameStand_returned _ _).phase

theorem phase_goto (env : Env) (label : String) (args : LabelArgs) (s : Script) :
    (goto env label args s).2.phase = s.phase := by
  have hresult := gotoResult env label args s
  generalize goto env label args s = r at hresult ⊢
  cases hresult with
  | leaves => exact phase_leave env s
  | lost => exact (s.sameStand_report _).phase
  | tripped => exact phase_countJump env s
  | lands => exact (sameStand_arrived ..).phase

theorem phase_gosub (env : Env) (label args : String) (s : Script) :
    (gosub env label args s).2.phase = s.phase := by
  have hgoto := phase_goto env label (.text args) s
  have hresult := gosubResult env label args s
  generalize gosub env label args s = r at hresult ⊢
  cases hresult with
  | forgets => rfl
  | full => exact (s.sameStand_report _).phase
  | opens | fails => exact hgoto

/-- **No statement changes the phase.**  A script that has to end is only told so, and ends
later. -/
theorem phase_execute (env : Env) (statement : Statement) (s : Script) :
    (execute env statement s).2.phase = s.phase := by
  have hkept : KeptByConditionals env fun s t => t.phase = s.phase :=
    SameButPlace.keeps env SameButPlace.phase fun h h' => h'.trans h
  induction statement generalizing s with
  | single head body ih => exact hkept.single ih head s
  | block head brace => exact hkept.block head brace s
  | rightBrace => exact hkept.closeBlock s
  | goto label args => exact phase_goto env label (.text args) s
  | gosub label args => exact phase_gosub env label args s
  | leave => exact phase_leave env s
  | _ => exact (execute_sameCourse env (by rfl) s).phase

end Script

end StreamScript
