import StreamScript.Proofs.Blocks.Meaning
import StreamScript.Proofs.Remarks
import StreamScript.Proofs.Subroutines

/-!
# Which variables a statement writes

A script has the arguments that it was given and variables of its own.  Hardly anything
that happens to a script touches either of them, and `SameVars` says so of two states:
conditions are tested, labels are jumped to and waits are armed without it.

Of the statements, `shift` drops the first argument, and a few others write one variable
each, whose name is found by putting variables into a text (`Statement.written?`).
Whatever else a statement does, the arguments and all other variables are kept
(`keeps_or_shifts`).  It is what is really carried out that counts, so that the body of a
conditional on one line writes only where the conditional holds (`written?`).
-/

namespace StreamScript

open Text

/-- The variable that a statement sets, calculates or takes away.  A calculation that fails has one,
too. -/
def Statement.written? (env : Env) (s : Script) : Statement → Option String
  | .setVar name _ | .unsetVar name | .math name _ _ | .eval name _ | .evalMath name _ =>
      some (s.substitute env name)
  | .save _ => some "s"
  | .random _ _ => some "r"
  | _ => none

namespace Script

variable {env : Env} {s t u : Script} {name : String}

/-! ## States with the same variables -/

/-- Two states with the same arguments and the same variables of the script's own, in which texts
are taken alike. -/
structure SameVars (s t : Script) : Prop where
  args : t.scopes.args = s.scopes.args
  locals : t.scopes.locals = s.scopes.locals
  verbatim : t.scopes.verbatim = s.scopes.verbatim

namespace SameVars

theorem of_scopes (h : t.scopes = s.scopes) : SameVars s t :=
  ⟨congrArg Scopes.args h, congrArg Scopes.locals h, congrArg Scopes.verbatim h⟩

theorem refl (s : Script) : SameVars s s :=
  .of_scopes rfl

theorem trans (h : SameVars s t) (h' : SameVars t u) : SameVars s u where
  args := h'.args.trans h.args
  locals := h'.locals.trans h.locals
  verbatim := h'.verbatim.trans h.verbatim

end SameVars

variable (s)

theorem sameVars_report (message : String) : SameVars s (s.report message) :=
  .of_scopes rfl

theorem sameVars_debug (level : DebugLevel) (message : String) :
    SameVars s (s.debug level message) :=
  .of_scopes (s.scopes_debug level message)

theorem sameVars_setCaptured (groups : Captures) : SameVars s (s.setCaptured groups) :=
  ⟨rfl, rfl, rfl⟩

theorem sameVars_cancel : SameVars s s.cancel := by
  unfold cancel
  split <;> exact .of_scopes rfl

theorem sameVars_doMatchWait (env : Env) (timeout : String) :
    SameVars s (s.doMatchWait env timeout) := by
  unfold doMatchWait
  dsimp only
  split <;> exact .of_scopes (scopes_debug _ .waits _)

theorem sameVars_addAction (action : Action) : SameVars s (s.addAction action) :=
  .of_scopes (congrArg View.scopes (s.view_addAction action))

theorem sameVars_setDebugLevel (env : Env) (level : String) :
    SameVars s (s.setDebugLevel env level) :=
  .of_scopes (congrArg View.scopes (s.view_setDebugLevel env level))

theorem sameVars_decideCondition (env : Env) (condition : Phrase) :
    SameVars s (s.decideCondition env condition).2 := by
  unfold decideCondition
  dsimp only
  split
  · exact s.sameVars_debug .conditions _
  · exact (s.sameVars_debug .conditions _).trans (sameVars_setCaptured _ _)

theorem sameVars_decideHead (env : Env) (head : Head) :
    SameVars s (s.decideHead env head).2 := by
  cases head with
  | ifHolds condition => exact s.sameVars_decideCondition env condition
  | elseIf condition => exact s.sameVars_decideCondition env condition
  | otherwise => exact .refl s
  | ifArgs count => exact s.sameVars_debug .conditions _

theorem keptByConditionals_sameVars (env : Env) : KeptByConditionals env SameVars where
  refl := .refl
  trans := .trans
  withWalk _ := .of_scopes rfl
  report := sameVars_report
  decideHead s := s.sameVars_decideHead env

/-! ## Jumps -/

theorem sameVars_countJump (env : Env) : SameVars s (countJump env s).2 := by
  refine .of_scopes ?_
  unfold countJump
  dsimp only
  split
  · unfold reportLoop
    dsimp only
    rw [foldl_status]
    rfl
  · rfl

theorem sameVars_leave (env : Env) : SameVars s (leave env s).2 := by
  have hresult := leaveResult env s
  generalize leave env s = r at hresult ⊢
  cases hresult with
  | unopened => exact s.sameVars_report _
  | @tripped frame outer =>
    have hpop : SameVars s { s with gosubs := outer } := .of_scopes rfl
    exact hpop.trans (sameVars_countJump _ env)
  | @back frame outer =>
    have hback : SameVars s { s with scopes := { s.scopes with labelVars := frame.labelVars } } :=
      ⟨rfl, rfl, rfl⟩
    exact hback.trans (.of_scopes (scopes_debug _ .gosubs _))

theorem sameVars_arrived (env : Env) (label : String) (target : Label) (args : LabelArgs) :
    SameVars s (s.arrived env label target args) := by
  rw [arrived]
  dsimp only
  refine SameVars.trans ?_ (sameVars_debug _ .gosubs _)
  cases args <;> exact ⟨rfl, rfl, rfl⟩

theorem sameVars_goto (env : Env) (label : String) (args : LabelArgs) :
    SameVars s (goto env label args s).2 := by
  have hresult := gotoResult env label args s
  generalize goto env label args s = r at hresult ⊢
  cases hresult with
  | leaves => exact s.sameVars_leave env
  | lost => exact s.sameVars_report _
  | tripped => exact s.sameVars_countJump env
  | lands =>
    have hcounted : SameVars s (s.counted env) := .of_scopes rfl
    exact hcounted.trans (sameVars_arrived _ env _ _ args)

theorem sameVars_gosub (env : Env) (label args : String) :
    SameVars s (gosub env label args s).2 := by
  have hgoto := s.sameVars_goto env label (.text args)
  have hresult := gosubResult env label args s
  generalize gosub env label args s = r at hresult ⊢
  cases hresult with
  | forgets => exact .of_scopes rfl
  | full => exact s.sameVars_report _
  | opens => exact hgoto.trans (.of_scopes rfl)
  | fails => exact hgoto

/-! ## Statements -/

/-- Two states with the same arguments and the same value of one variable of the script's own, in
which texts are taken alike. -/
structure Keeps (name : String) (s t : Script) : Prop where
  args : t.scopes.args = s.scopes.args
  value : t.scopes.locals.get? name = s.scopes.locals.get? name
  verbatim : t.scopes.verbatim = s.scopes.verbatim

variable {s}

theorem SameVars.keeps (h : SameVars s t) : Keeps name s t :=
  ⟨h.args, by rw [h.locals], h.verbatim⟩

theorem Keeps.trans (h : Keeps name s t) (h' : Keeps name t u) : Keeps name s u where
  args := h'.args.trans h.args
  value := h'.value.trans h.value
  verbatim := h'.verbatim.trans h.verbatim

variable (s) in
theorem keeps_setLocal {var : String} (h : some var ≠ some name) (value : String) :
    Keeps name s (s.setLocal var value) := by
  have hset : Keeps name s { s with scopes := s.scopes.setLocal var value } := by
    refine ⟨rfl, ?_, rfl⟩
    rw [Scopes.setLocal, Bindings.get?_insert, if_neg fun heq => h (congrArg some heq)]
  exact hset.trans (SameVars.of_scopes (congrArg View.scopes (s.view_setLocal var value))).keeps

theorem keeps_doMath {var : String} (h : some (s.substitute env var) ≠ some name)
    (op number : String) : Keeps name s (s.doMath env var op number) := by
  unfold doMath
  dsimp only
  split
  · exact (s.sameVars_report _).keeps
  · split
    · exact s.keeps_setLocal h _
    · exact (s.sameVars_report _).keeps

theorem keeps_doRandom (h : some "r" ≠ some name) (lo hi : String) :
    Keeps name s (s.doRandom env lo hi) := by
  unfold doRandom
  dsimp only
  split
  · have hdrawn : SameVars s { s with drawn := s.drawn + 1 } := .of_scopes rfl
    exact hdrawn.keeps.trans (keeps_setLocal _ h _)
  · exact (s.sameVars_report _).keeps

/-- A statement that is neither a conditional on one line nor drops an argument keeps the arguments,
and every variable that it does not write. -/
theorem keeps_of_not_single {statement : Statement} (hshift : statement ≠ .shift)
    (hsingle : ∀ head body, statement ≠ .single head body)
    (h : statement.written? env s ≠ some name) : Keeps name s (execute env statement s).2 := by
  have hkept := keptByConditionals_sameVars env
  cases statement with
  | shift => exact absurd rfl hshift
  | single head body => exact absurd rfl (hsingle head body)
  | block head brace => exact (hkept.block head brace s).keeps
  | rightBrace => exact (hkept.closeBlock s).keeps
  | goto label args => exact (s.sameVars_goto env label (.text args)).keeps
  | gosub label args => exact (s.sameVars_gosub env label args).keeps
  | leave => exact (s.sameVars_leave env).keeps
  | save | setVar | eval | evalMath => exact s.keeps_setLocal h _
  | unsetVar var =>
    refine Keeps.trans ?_ (sameVars_debug _ .variables _).keeps
    refine ⟨rfl, ?_, rfl⟩
    rw [Bindings.get?_erase, if_neg fun heq => h (congrArg some heq)]
  | math var op number => exact keeps_doMath h op number
  | random lo hi => exact keeps_doRandom h lo hi
  | debug level => exact (s.sameVars_setDebugLevel env level).keeps
  | matchWait timeout => exact (s.sameVars_doMatchWait env timeout).keeps
  | action name command pattern =>
    exact ((s.sameVars_addAction _).trans (sameVars_debug _ .actions _)).keeps
  | move | pause | nextRoom | waitFor | waitForRegex | waitPrompt | waitEval | toggleAction =>
    exact SameVars.keeps (.of_scopes (scopes_debug _ _ _))
  | leftBrace | label | comment | exit | echo | put | send | printBox | matchText | matchRegex =>
    exact SameVars.keeps (.of_scopes rfl)

/-- A script that has dropped its first argument. -/
def shifted (s : Script) : Script :=
  { s with scopes := s.scopes.shiftArgs }

theorem SameVars.shifted (h : SameVars s t) : SameVars s.shifted t.shifted := by
  simp only [Script.shifted, Scopes.shiftArgs, h.args]
  cases hargs : s.scopes.args with
  | nil => exact ⟨h.args, h.locals, h.verbatim⟩
  | cons first rest =>
    refine ⟨rfl, ?_, h.verbatim⟩
    simp only [Scopes.setArgs, h.locals]

/-- The variable that is written by what is really carried out of a statement. -/
def written? (env : Env) (statement : Statement) (s : Script) : Option String :=
  (core env statement s).statement.written? env (core env statement s).script

/-- **A statement drops the first argument, or it keeps the arguments and all variables but the one
that it writes.** -/
theorem keeps_or_shifts {statement : Statement} (h : written? env statement s ≠ some name) :
    Keeps name s (execute env statement s).2 ∨ SameVars s.shifted (execute env statement s).2 := by
  have hkept := keptByConditionals_sameVars env
  induction statement generalizing s with
  | single head body ih =>
    obtain ⟨-, hsame⟩ | ⟨idx, t, hidx, henter, hcore⟩ := hkept.core_single head body s
    · exact .inl hsame.keeps
    · have hsame := hkept.enterSingle head idx s
      rw [henter] at hsame
      rw [written?, hcore] at h
      rw [execute_single_of_true hidx henter]
      have hrivals : SameVars (execute env body t).2
          (if (execute env body t).2.walk.next = t.walk.next then
            (execute env body t).2.skipRivals head
          else (execute env body t).2) :=
        iteInduction (fun _ => hkept.skipRivals head _) fun _ => .refl _
      obtain hkeeps | hshifts := ih h
      · exact .inl ((hsame.keeps.trans hkeeps).trans hrivals.keeps)
      · exact .inr ((hsame.shifted.trans hshifts).trans hrivals)
  | shift => exact .inr (sameVars_debug s.shifted .variables _)
  | _ => exact .inl (keeps_of_not_single nofun nofun h)

end Script

end StreamScript
