import StreamScript.Proofs.Standing

/-!
# What comes of a jump

Jumps are the statements that change the most at once.  They are counted, give up every
wait, bind what the label is given, and move.  What can come of a return, of a jump to a
label and of a call is listed here once, with the conditions under which it does
(`LeaveResult`, `GotoResult`, `GosubResult`).  Whatever jumps keep is read off these
lists, so that no other proof has to open them.

Where the loop guard lets a jump pass, nothing but the guard has changed by then
(`countJump_of_passed`).  So the script that has come back from a subroutine (`returned`)
or has come to a label (`arrived`) is known entirely.
-/

namespace StreamScript

open Text

namespace Script

variable {env : Env} {s t : Script}

/-! ## The loop guard -/

/-- A script that has counted a jump. -/
def counted (env : Env) (s : Script) : Script :=
  { s with
    guard := s.guard.record env.settings.loopWindow (env.clock s.readings)
    readings := s.readings + 1 }

theorem fst_countJump (env : Env) (s : Script) :
    (countJump env s).1 = (s.counted env).guard.tripped env.settings.loopLimit := by
  unfold countJump
  dsimp only
  split
  · next htripped => exact htripped.symm
  · next hpassed => exact (Bool.not_eq_true _ ▸ hpassed).symm

/-- A guard that trips is only talked about. -/
theorem sameStand_countJump (env : Env) (s : Script) :
    SameStand (s.counted env) (countJump env s).2 := by
  unfold countJump
  dsimp only
  split
  · exact sameStand_reportLoop _
  · exact .refl _

theorem countJump_of_passed (h : (countJump env s).1 = false) :
    countJump env s = (false, s.counted env) := by
  unfold countJump at h ⊢
  dsimp only at h ⊢
  split
  · next htripped => rw [if_pos htripped] at h; cases h
  · rfl

/-! ## Returns -/

/-- A script that has come back from a subroutine. -/
def returned (frame : Gosub) (s : Script) : Script :=
  ({ s with
    scopes := { s.scopes with labelVars := frame.labelVars }
    walk := { s.walk with ifs := frame.ifs }.moveTo frame.next } : Script).debug .gosubs "return"

theorem sameStand_returned (frame : Gosub) (s : Script) :
    SameStand { s with walk := { s.walk with ifs := frame.ifs }.moveTo frame.next }
      (s.returned frame) :=
  (sameStand_withScopes _ _).trans (sameStand_debug _ .gosubs _)

/-- What can come of a return. -/
inductive LeaveResult (env : Env) (s : Script) : Flow × Script → Prop where
  /-- No subroutine is open. -/
  | unopened (hgosubs : s.gosubs = []) :
      LeaveResult env s (.exit, s.report "no gosub to return to!")
  /-- The loop guard trips. -/
  | tripped {frame : Gosub} {outer : List Gosub} (hgosubs : s.gosubs = frame :: outer)
      (hcount : (countJump env { s with gosubs := outer }).1 = true) :
      LeaveResult env s (.exit, (countJump env { s with gosubs := outer }).2)
  /-- The script comes back. -/
  | back {frame : Gosub} {outer : List Gosub} (hgosubs : s.gosubs = frame :: outer)
      (hcount : (countJump env { s with gosubs := outer }).1 = false) :
      LeaveResult env s (.next, (counted env { s with gosubs := outer }).returned frame)

theorem leaveResult (env : Env) (s : Script) : LeaveResult env s (leave env s) := by
  unfold leave
  split
  · next hgosubs => exact .unopened hgosubs
  · next frame outer hgosubs =>
    cases hcount : (countJump env { s with gosubs := outer }).1 with
    | true =>
      have hpair : countJump env { s with gosubs := outer } =
        (true, (countJump env { s with gosubs := outer }).2) := Prod.ext hcount rfl
      rw [hpair]
      exact .tripped hgosubs hcount
    | false =>
      rw [countJump_of_passed hcount]
      exact .back hgosubs hcount

/-! ## Jumps to a label -/

/-- The name of the label that a jump is to go to. -/
def labelName (env : Env) (label : String) (s : Script) : String :=
  String.ofList (lowercase (trim (s.substitute env label).toList))

/-- A script that has come to a label. -/
def arrived (env : Env) (name : String) (target : Label) (args : LabelArgs) (s : Script) : Script :=
  let s := bindLabelArgs env args
    { s.clearWaits with scopes := { s.scopes with captured := .empty } }
  ({ s with walk := { s.walk with ifs := [] }.moveTo target.line } : Script).debug .gosubs
    ("goto " ++ name)

theorem sameStand_arrived (env : Env) (name : String) (target : Label) (args : LabelArgs)
    (s : Script) :
    SameStand { s.clearWaits with walk := { s.walk with ifs := [] }.moveTo target.line }
      (s.arrived env name target args) := by
  refine SameStand.trans ?_ (sameStand_debug _ .gosubs _)
  cases args <;> exact sameStand_withScopes _ _

/-- What can come of a jump to a label. -/
inductive GotoResult (env : Env) (label : String) (args : LabelArgs) (s : Script) :
    Flow × Script → Prop where
  /-- It is a return. -/
  | leaves (hnone : s.walk.program.label? (s.labelName env label) = none)
      (hreturn : s.labelName env label = "return") :
      GotoResult env label args s (leave env s)
  /-- There is no such label. -/
  | lost (hnone : s.walk.program.label? (s.labelName env label) = none)
      (hother : s.labelName env label ≠ "return") :
      GotoResult env label args s
        (.exit, s.report ("label '" ++ s.labelName env label ++ "' not found"))
  /-- The loop guard trips. -/
  | tripped {target : Label}
      (hsome : s.walk.program.label? (s.labelName env label) = some target)
      (hcount : (countJump env s).1 = true) :
      GotoResult env label args s (.exit, (countJump env s).2)
  /-- The script comes to the label. -/
  | lands {target : Label}
      (hsome : s.walk.program.label? (s.labelName env label) = some target)
      (hcount : (countJump env s).1 = false) :
      GotoResult env label args s
        (.next, (s.counted env).arrived env (s.labelName env label) target args)

theorem gotoResult (env : Env) (label : String) (args : LabelArgs) (s : Script) :
    GotoResult env label args s (goto env label args s) := by
  unfold goto
  rw [← labelName]
  dsimp only
  split
  · next hnone =>
    split
    · next hreturn => exact .leaves hnone hreturn
    · next hother => exact .lost hnone hother
  · next target hsome =>
    cases hcount : (countJump env s).1 with
    | true =>
      have hpair : countJump env s = (true, (countJump env s).2) := Prod.ext hcount rfl
      rw [hpair]
      exact .tripped hsome hcount
    | false =>
      rw [countJump_of_passed hcount]
      exact .lands hsome hcount

/-- A jump comes to its label where there is one and the loop guard lets it. -/
theorem goto_of_label {label : String} {target : Label}
    (hlabel : s.walk.program.label? (s.labelName env label) = some target)
    (hcount : (countJump env s).1 = false) (args : LabelArgs) :
    goto env label args s =
      (.next, (s.counted env).arrived env (s.labelName env label) target args) := by
  have hresult := gotoResult env label args s
  generalize goto env label args s = r at hresult ⊢
  cases hresult with
  | leaves hnone | lost hnone => rw [hlabel] at hnone; cases hnone
  | tripped _ htripped => rw [hcount] at htripped; cases htripped
  | lands hsome =>
    obtain rfl := Option.some.inj (hlabel.symm.trans hsome)
    rfl

/-! ## Calls -/

/-- What a subroutine that is called from here restores when it returns. -/
def hereFrame (s : Script) : Gosub :=
  ⟨s.walk.next, s.scopes.labelVars, s.walk.ifs⟩

/-- A call opens a subroutine where there is room for it and its jump goes on. -/
theorem gosub_of_goto {label args : String} (hclear : sameName label "clear" = false)
    (hroom : s.gosubs.length < env.settings.maxGosubs)
    (hgoto : goto env label (.text args) s = (.next, t)) :
    gosub env label args s = (.next, { t with gosubs := s.hereFrame :: t.gosubs }) := by
  rw [gosub, hclear, if_neg Bool.false_ne_true, if_neg (Nat.not_le.mpr hroom), hgoto]
  rfl

/-- What can come of a call. -/
inductive GosubResult (env : Env) (label args : String) (s : Script) : Flow × Script → Prop where
  /-- The open subroutines are forgotten. -/
  | forgets (hclear : sameName label "clear" = true) :
      GosubResult env label args s (.next, { s with gosubs := [] })
  /-- Too many subroutines are open. -/
  | full (hclear : sameName label "clear" = false)
      (hfull : env.settings.maxGosubs ≤ s.gosubs.length) :
      GosubResult env label args s (.exit, s.report ("maximum gosub depth of "
        ++ String.ofList (Number.natText env.settings.maxGosubs) ++ " reached"))
  /-- The jump goes on, and a subroutine is open. -/
  | opens (hclear : sameName label "clear" = false)
      (hroom : s.gosubs.length < env.settings.maxGosubs)
      (hgoto : (goto env label (.text args) s).1 = .next) :
      GosubResult env label args s (.next, { (goto env label (.text args) s).2 with
        gosubs := s.hereFrame :: (goto env label (.text args) s).2.gosubs })
  /-- The jump does not go on. -/
  | fails (hclear : sameName label "clear" = false)
      (hroom : s.gosubs.length < env.settings.maxGosubs)
      (hgoto : (goto env label (.text args) s).1 ≠ .next) :
      GosubResult env label args s (goto env label (.text args) s)

theorem gosubResult (env : Env) (label args : String) (s : Script) :
    GosubResult env label args s (gosub env label args s) := by
  unfold gosub
  split
  · next hclear => exact .forgets hclear
  · next hclear =>
    have hclear := Bool.eq_false_iff.mpr hclear
    split
    · next hfull => exact .full hclear hfull
    · next hroom =>
      have hroom := Nat.not_le.mp hroom
      have hopens := @GosubResult.opens env label args s hclear hroom
      have hfails := @GosubResult.fails env label args s hclear hroom
      dsimp only
      generalize goto env label (.text args) s = r at hopens hfails ⊢
      obtain ⟨flow, t⟩ := r
      cases flow with
      | next => exact hopens rfl
      | wait | exit | skipBlock | skipChain => exact hfails nofun

end Script

end StreamScript
