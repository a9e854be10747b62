import StreamScript.Script.Run

/-!
# What leaves a script where it stands

Much of what a script does is beside the point of where it stands: messages,
variables, actions and the level of detail come and go, while the place in the
program, the open conditionals and subroutines, the phase, the loop guard and all
that is waited for stay as they were.  `SameStand` says so of two states.

There is one lemma for every operation of this kind, and `execute_sameStand` puts
them together for the statements that do nothing else (`Statement.isAside`).
Frame conditions that say less follow from these and need no lemmas of their own.
-/

namespace StreamScript

namespace Statement

/-- Whether a statement only sends something out, or changes what the script knows. -/
def isAside : Statement → Bool
  | .leftBrace | .label _ | .comment _ | .shift | .debug _ | .echo _ | .put _ | .send _
  | .printBox _ | .save _ | .setVar .. | .unsetVar _ | .math .. | .random .. | .eval ..
  | .evalMath .. | .action .. | .toggleAction .. => true
  | _ => false

end Statement

namespace Script

/-- Two states that are at the same place of the same run and wait for the same. -/
structure SameStand (s t : Script) : Prop where
  walk : t.walk = s.walk
  phase : t.phase = s.phase
  resumePending : t.resumePending = s.resumePending
  guard : t.guard = s.guard
  readings : t.readings = s.readings
  gosubs : t.gosubs = s.gosubs
  targets : t.targets = s.targets
  matchSet : t.matchSet? = s.matchSet?
  wait : t.wait? = s.wait?
  timer : t.timer? = s.timer?

variable {s t u : Script}

namespace SameStand

theorem refl (s : Script) : SameStand s s :=
  ⟨rfl, rfl, rfl, rfl, rfl, rfl, rfl, rfl, rfl, rfl⟩

theorem trans (h : SameStand s t) (h' : SameStand t u) : SameStand s u where
  walk := h'.walk.trans h.walk
  phase := h'.phase.trans h.phase
  resumePending := h'.resumePending.trans h.resumePending
  guard := h'.guard.trans h.guard
  readings := h'.readings.trans h.readings
  gosubs := h'.gosubs.trans h.gosubs
  targets := h'.targets.trans h.targets
  matchSet := h'.matchSet.trans h.matchSet
  wait := h'.wait.trans h.wait
  timer := h'.timer.trans h.timer

theorem isWaiting (h : SameStand s t) : t.isWaiting = s.isWaiting := by
  rw [Script.isWaiting, Script.isWaiting, h.wait, h.timer]

end SameStand

/-! ## Output and variables -/

variable (s)

theorem sameStand_emit (event : Event) : SameStand s (s.emit event) :=
  ⟨rfl, rfl, rfl, rfl, rfl, rfl, rfl, rfl, rfl, rfl⟩

theorem sameStand_report (message : String) : SameStand s (s.report message) :=
  s.sameStand_emit _

theorem sameStand_debug (level : DebugLevel) (message : String) :
    SameStand s (s.debug level message) := by
  unfold debug
  split
  · exact s.sameStand_report message
  · exact .refl s

theorem sameStand_withScopes (scopes : Scopes) : SameStand s { s with scopes := scopes } :=
  ⟨rfl, rfl, rfl, rfl, rfl, rfl, rfl, rfl, rfl, rfl⟩

theorem sameStand_setLocal (name value : String) : SameStand s (s.setLocal name value) :=
  (s.sameStand_debug .variables _).trans (sameStand_withScopes _ _)

theorem sameStand_setCaptured (groups : Captures) : SameStand s (s.setCaptured groups) :=
  s.sameStand_withScopes _

theorem sameStand_setVerbatim (on : Bool) : SameStand s (s.setVerbatim on) :=
  s.sameStand_withScopes _

theorem sameStand_remember (line : Line) : SameStand s (s.remember line) :=
  ⟨rfl, rfl, rfl, rfl, rfl, rfl, rfl, rfl, rfl, rfl⟩

theorem sameStand_doMath (env : Env) (var op number : String) :
    SameStand s (s.doMath env var op number) := by
  unfold doMath
  dsimp only
  split
  · exact s.sameStand_report _
  · split
    · exact s.sameStand_setLocal _ _
    · exact s.sameStand_report _

theorem sameStand_doRandom (env : Env) (lo hi : String) :
    SameStand s (s.doRandom env lo hi) := by
  unfold doRandom
  dsimp only
  split
  · refine SameStand.trans ?_ (sameStand_setLocal _ _ _)
    exact ⟨rfl, rfl, rfl, rfl, rfl, rfl, rfl, rfl, rfl, rfl⟩
  · exact s.sameStand_report _

theorem sameStand_setDebugLevel (env : Env) (level : String) :
    SameStand s (s.setDebugLevel env level) := by
  unfold setDebugLevel
  dsimp only
  split
  · exact ⟨rfl, rfl, rfl, rfl, rfl, rfl, rfl, rfl, rfl, rfl⟩
  · exact s.sameStand_report _

theorem sameStand_reportLoop : SameStand s s.reportLoop := by
  have htold (lines : List String) (t : Script) : SameStand t (lines.foldl status t) := by
    induction lines generalizing t with
    | nil => exact .refl t
    | cons line rest ih => exact (t.sameStand_emit _).trans (ih _)
  exact (s.sameStand_report _).trans (htold _ _)

/-! ## Actions and conditions -/

theorem sameStand_addAction (action : Action) : SameStand s (s.addAction action) := by
  unfold addAction
  dsimp only
  split
  · exact ⟨rfl, rfl, rfl, rfl, rfl, rfl, rfl, rfl, rfl, rfl⟩
  · exact ⟨rfl, rfl, rfl, rfl, rfl, rfl, rfl, rfl, rfl, rfl⟩

theorem sameStand_toggleActions (name : String) (on : Bool) :
    SameStand s (s.toggleActions name on) :=
  ⟨rfl, rfl, rfl, rfl, rfl, rfl, rfl, rfl, rfl, rfl⟩

theorem sameStand_decideCondition (env : Env) (condition : Phrase) :
    SameStand s (s.decideCondition env condition).2 := by
  unfold decideCondition
  dsimp only
  split
  · exact s.sameStand_debug .conditions _
  · exact (s.sameStand_debug .conditions _).trans (sameStand_setCaptured _ _)

theorem sameStand_decideHead (env : Env) (head : Head) :
    SameStand s (s.decideHead env head).2 := by
  cases head with
  | ifHolds condition => exact s.sameStand_decideCondition env condition
  | elseIf condition => exact s.sameStand_decideCondition env condition
  | otherwise => exact .refl s
  | ifArgs count => exact s.sameStand_debug .conditions _

/-! ## Statements -/

/-- **A statement that does nothing else leaves the script where it stands**, and the next one
follows. -/
theorem execute_sameStand (env : Env) {statement : Statement} (h : statement.isAside = true) :
    (execute env statement s).1 = .next ∧ SameStand s (execute env statement s).2 := by
  cases statement with
  | leftBrace | label | comment => exact ⟨rfl, .refl s⟩
  | shift => exact ⟨rfl, (s.sameStand_withScopes _).trans (sameStand_debug _ .variables _)⟩
  | debug level => exact ⟨rfl, s.sameStand_setDebugLevel env level⟩
  | echo | put | send | printBox => exact ⟨rfl, s.sameStand_emit _⟩
  | save | setVar | eval | evalMath => exact ⟨rfl, s.sameStand_setLocal _ _⟩
  | unsetVar name => exact ⟨rfl, (s.sameStand_withScopes _).trans (sameStand_debug _ .variables _)⟩
  | math var op number => exact ⟨rfl, s.sameStand_doMath env var op number⟩
  | random lo hi => exact ⟨rfl, s.sameStand_doRandom env lo hi⟩
  | action => exact ⟨rfl, (s.sameStand_addAction _).trans (sameStand_debug _ .actions _)⟩
  | toggleAction name on =>
    exact ⟨rfl, (s.sameStand_toggleActions name on).trans (sameStand_debug _ .actions _)⟩
  | _ => cases h

end Script

end StreamScript
