import StreamScript.Proofs.Runs

/-!
# Open subroutines

A subroutine that is open keeps what its return restores.  Only four statements
touch the list of them: a call, a return, a jump to `return` where no label has that
name, and a call that forgets them all.  Any of these may stand in conditionals on
one line, so what is really carried out of a statement is found first (`core`).
What conditionals do behind their body changes the place in the program and nothing
else (`execute_core`).

A call whose label is `return` first closes a subroutine and then opens one, so the
number of open subroutines before and behind a statement does not tell how many were
open all along.  `leastOpen` does, and `suffix_execute` is the reason for it: those
that were open all along are still there, each as it was.
-/

namespace StreamScript

open Text

namespace Script

variable {env : Env} {s t : Script} {fs : List Gosub}

/-! ## What is carried out of a statement -/

/-- A statement that is really carried out, inside of conditionals on one line. -/
structure Core where
  /-- What these test, the outermost first. -/
  heads : List Head
  statement : Statement
  /-- The script that carries it out. -/
  script : Script

/-- What is really carried out of a statement.  Of a conditional that does not hold, or has no line
to stand on, it is the conditional itself. -/
def core (env : Env) : Statement → Script → Core
  | .single head body, s =>
      match s.walk.index? with
      | none => ⟨[], .single head body, s⟩
      | some idx =>
          match enterSingle env head idx s with
          | (false, _) => ⟨[], .single head body, s⟩
          | (true, t) => { core env body t with heads := head :: (core env body t).heads }
  | statement, s => ⟨[], statement, s⟩

/-- A conditional on one line does no more than conditionals do, or its body is carried out. -/
theorem KeptByConditionals.core_single {R : Script → Script → Prop}
    (h : KeptByConditionals env R) (head : Head) (body : Statement) (s : Script) :
    (core env (.single head body) s = ⟨[], .single head body, s⟩ ∧
        R s (execute env (.single head body) s).2) ∨
      ∃ idx t, s.walk.index? = some idx ∧ Script.enterSingle env head idx s = (true, t) ∧
        core env (.single head body) s =
          { core env body t with heads := head :: (core env body t).heads } := by
  cases hidx : s.walk.index? with
  | none =>
    rw [core, execute, hidx]
    exact .inl ⟨rfl, h.refl s⟩
  | some idx =>
    rw [core, hidx]
    dsimp only
    cases henter : Script.enterSingle env head idx s with
    | mk holds t =>
      cases holds with
      | true => exact .inr ⟨idx, t, rfl, henter, rfl⟩
      | false =>
        have hsame := h.enterSingle head idx s
        rw [execute_single_of_false hidx henter]
        rw [henter] at hsame
        exact .inl ⟨rfl, hsame⟩

theorem core_single (env : Env) (head : Head) (body : Statement) (s : Script) :
    (core env (.single head body) s = ⟨[], .single head body, s⟩ ∧
        SameButPlace s (execute env (.single head body) s).2) ∨
      ∃ idx t, s.walk.index? = some idx ∧ enterSingle env head idx s = (true, t) ∧
        core env (.single head body) s =
          { core env body t with heads := head :: (core env body t).heads } :=
  (SameButPlace.keptByConditionals env).core_single head body s

theorem sameButPlace_core (env : Env) (statement : Statement) (s : Script) :
    SameButPlace s (core env statement s).script := by
  induction statement generalizing s with
  | single head body ih =>
    obtain ⟨hcore, -⟩ | ⟨idx, t, -, henter, hcore⟩ := core_single env head body s
    · rw [hcore]
      exact .refl s
    · have hsame := SameButPlace.enterSingle env head idx s
      rw [henter] at hsame
      rw [hcore]
      exact hsame.trans (ih t)
  | _ => exact .refl s

/-- To look at a conditional does not move a script. -/
theorem next_enterSingle (env : Env) (head : Head) (idx : Nat) (s : Script) :
    (enterSingle env head idx s).2.walk.next = s.walk.next := by
  have htest := congrArg Walk.next (s.sameStand_decideHead env head).walk
  cases head with
  | ifHolds | ifArgs => exact htest
  | elseIf | otherwise =>
    rw [enterSingle]
    split
    · rfl
    · split
      · rfl
      · exact htest

theorem next_core (env : Env) (statement : Statement) (s : Script) :
    (core env statement s).script.walk.next = s.walk.next := by
  induction statement generalizing s with
  | single head body ih =>
    obtain ⟨hcore, -⟩ | ⟨idx, t, -, henter, hcore⟩ := core_single env head body s
    · rw [hcore]
    · have hnext := next_enterSingle env head idx s
      rw [henter] at hnext
      rw [hcore]
      exact (ih t).trans hnext
  | _ => rfl

/-- What conditionals do behind their body, the innermost first: those whose body has left the
script at its place pass over the lines that they rule out. -/
def passRivals (place : Nat) (heads : List Head) (s : Script) : Script :=
  heads.foldr (fun head t => if t.walk.next = place then t.skipRivals head else t) s

/-- **A statement does what is really carried out of it**, and then conditionals may pass over
lines. -/
theorem execute_core (env : Env) (statement : Statement) (s : Script) :
    let c := core env statement s
    execute env statement s = ((execute env c.statement c.script).1,
      (execute env c.statement c.script).2.passRivals s.walk.next c.heads) := by
  induction statement generalizing s with
  | single head body ih =>
    obtain ⟨hcore, -⟩ | ⟨idx, t, hidx, henter, hcore⟩ := core_single env head body s
    · rw [hcore]
      rfl
    · have hnext := next_enterSingle env head idx s
      rw [henter] at hnext
      rw [hcore, execute_single_of_true hidx henter, ih t, ← show t.walk.next = _ from hnext]
      rfl
  | _ => rfl

/-- What conditionals do behind their body is a matter of the place. -/
theorem passRivals_eq (place : Nat) (heads : List Head) (s : Script) :
    s.passRivals place heads =
      { s with walk := { s.walk with next := (s.passRivals place heads).walk.next } } := by
  induction heads with
  | nil => rfl
  | cons head rest ih =>
    have hcons : s.passRivals place (head :: rest) =
        if (s.passRivals place rest).walk.next = place then
          (s.passRivals place rest).skipRivals head
        else s.passRivals place rest := rfl
    rw [hcons]
    split
    · rw [ih]
      cases head <;> rfl
    · exact ih

/-! ## Returns and calls -/

/-- Whether a jump is a return: no label is called `return`, and that is where it should lead. -/
def comesBack (env : Env) (label : String) (s : Script) : Bool :=
  let label := String.ofList (lowercase (trim (s.substitute env label).toList))
  (s.walk.program.label? label).isNone && label == "return"

theorem goto_of_comesBack {label : String} (h : comesBack env label s = true) (args : LabelArgs) :
    goto env label args s = leave env s := by
  unfold comesBack at h
  rw [Bool.and_eq_true, Option.isNone_iff_eq_none, beq_iff_eq] at h
  unfold goto
  dsimp only
  rw [h.1, h.2]
  rfl

theorem gosubs_countJump (env : Env) (s : Script) : (countJump env s).2.gosubs = s.gosubs :=
  (sameStand_countJump env s).gosubs

theorem gosubs_leave (env : Env) (s : Script) : (leave env s).2.gosubs = s.gosubs.tail := by
  have hresult := leaveResult env s
  generalize leave env s = r at hresult ⊢
  cases hresult with
  | unopened hgosubs =>
    rw [hgosubs]
    exact (s.sameStand_report _).gosubs.trans hgosubs
  | tripped hgosubs =>
    rw [hgosubs]
    exact gosubs_countJump env _
  | back hgosubs =>
    rw [hgosubs]
    exact (sameStand_returned _ _).gosubs

theorem gosubs_goto (env : Env) (label : String) (args : LabelArgs) (s : Script) :
    (goto env label args s).2.gosubs =
      if comesBack env label s then s.gosubs.tail else s.gosubs := by
  have hback : comesBack env label s =
      ((s.walk.program.label? (s.labelName env label)).isNone &&
        s.labelName env label == "return") := rfl
  have hresult := gotoResult env label args s
  generalize goto env label args s = r at hresult ⊢
  cases hresult with
  | leaves hnone hreturn =>
    rw [hback, hnone, hreturn]
    exact gosubs_leave env s
  | lost hnone hother =>
    rw [hback, hnone, beq_false_of_ne hother]
    exact (s.sameStand_report _).gosubs
  | tripped hsome =>
    rw [hback, hsome]
    exact gosubs_countJump env s
  | lands hsome =>
    rw [hback, hsome]
    exact (sameStand_arrived ..).gosubs

theorem gosubs_gosub (env : Env) (label args : String) (s : Script) :
    (gosub env label args s).2.gosubs =
      if sameName label "clear" then []
      else if env.settings.maxGosubs ≤ s.gosubs.length then s.gosubs
      else if (goto env label (.text args) s).1 = .next then
        s.hereFrame :: (goto env label (.text args) s).2.gosubs
      else (goto env label (.text args) s).2.gosubs := by
  have hresult := gosubResult env label args s
  generalize gosub env label args s = r at hresult ⊢
  cases hresult with
  | forgets hclear => rw [if_pos hclear]
  | full hclear hfull =>
    rw [hclear, if_neg Bool.false_ne_true, if_pos hfull]
    exact (s.sameStand_report _).gosubs
  | opens hclear hroom hgoto =>
    rw [hclear, if_neg Bool.false_ne_true, if_neg (Nat.not_le.mpr hroom), if_pos hgoto]
  | fails hclear hroom hgoto =>
    rw [hclear, if_neg Bool.false_ne_true, if_neg (Nat.not_le.mpr hroom), if_neg hgoto]

/-! ## Statements -/

/-- **What a statement does to the open subroutines.** -/
theorem gosubs_execute (env : Env) (statement : Statement) (s : Script) :
    (execute env statement s).2.gosubs =
      match (core env statement s).statement with
      | .leave => s.gosubs.tail
      | .goto label _ =>
          if comesBack env label (core env statement s).script then s.gosubs.tail else s.gosubs
      | .gosub label args => (gosub env label args (core env statement s).script).2.gosubs
      | _ => s.gosubs := by
  induction statement generalizing s with
  | single head body ih =>
    obtain ⟨hcore, hsame⟩ | ⟨idx, t, hidx, henter, hcore⟩ := core_single env head body s
    · rw [hcore]
      exact hsame.gosubs
    · have hsame := (SameButPlace.enterSingle env head idx s).gosubs
      rw [henter] at hsame
      rw [hcore, execute_core, hcore, passRivals_eq]
      have hbody := ih t
      rw [execute_core, passRivals_eq, show t.gosubs = s.gosubs from hsame] at hbody
      exact hbody
  | goto label args => exact gosubs_goto env label (.text args) s
  | gosub label args => rfl
  | leave => exact gosubs_leave env s
  | block head brace => exact ((SameButPlace.keptByConditionals env).block head brace s).gosubs
  | rightBrace => exact (SameButPlace.closeBlock s).gosubs
  | _ => exact (execute_sameCourse env (by rfl) s).gosubs

/-- No statement opens more subroutines than may be open. -/
theorem length_gosubs_execute_le (env : Env) (statement : Statement) (s : Script) :
    (execute env statement s).2.gosubs.length ≤ max s.gosubs.length env.settings.maxGosubs := by
  have htail : s.gosubs.tail.length ≤ s.gosubs.length := by
    rw [List.length_tail]
    exact Nat.sub_le _ _
  have hgoto (label : String) (args : LabelArgs) (u : Script) (hu : u.gosubs = s.gosubs) :
      (goto env label args u).2.gosubs.length ≤ s.gosubs.length := by
    rw [gosubs_goto, hu]
    split
    · exact htail
    · exact Nat.le_refl _
  have hcore := (sameButPlace_core env statement s).gosubs
  rw [gosubs_execute]
  split
  · omega
  · split <;> omega
  · next label args _ =>
    have hle := hgoto label (.text args) _ hcore
    rw [gosubs_gosub, hcore]
    split
    · exact Nat.zero_le _
    · split
      · exact Nat.le_max_left _ _
      · split
        · rw [List.length_cons]
          omega
        · omega
  · exact Nat.le_max_left _ _

/-- The least number of subroutines that are open while a statement is carried out. -/
def leastOpen (env : Env) (statement : Statement) (s : Script) : Nat :=
  match (core env statement s).statement with
  | .leave => s.gosubs.length - 1
  | .goto label _ =>
      if comesBack env label (core env statement s).script then s.gosubs.length - 1
      else s.gosubs.length
  | .gosub label _ =>
      if sameName label "clear" then 0
      else if comesBack env label (core env statement s).script then s.gosubs.length - 1
      else s.gosubs.length
  | _ => s.gosubs.length

theorem suffix_tail (h : fs <:+ s.gosubs) (hle : fs.length ≤ s.gosubs.length - 1) :
    fs <:+ s.gosubs.tail := by
  cases hgosubs : s.gosubs with
  | nil =>
    rw [hgosubs] at h
    exact h
  | cons frame outer =>
    rw [hgosubs, List.length_cons, Nat.add_sub_cancel] at hle
    rw [hgosubs, List.suffix_cons_iff] at h
    rcases h with rfl | h
    · rw [List.length_cons] at hle
      omega
    · exact h

/-- **The subroutines that are open all along are not touched.** -/
theorem suffix_execute {statement : Statement} (h : fs <:+ s.gosubs)
    (hle : fs.length ≤ leastOpen env statement s) : fs <:+ (execute env statement s).2.gosubs := by
  have hcore := (sameButPlace_core env statement s).gosubs
  rw [leastOpen] at hle
  rw [gosubs_execute]
  split
  · next hstatement =>
    rw [hstatement] at hle
    exact suffix_tail h hle
  · next label args hstatement =>
    rw [hstatement] at hle
    dsimp only at hle
    split
    · next hback => rw [if_pos hback] at hle; exact suffix_tail h hle
    · exact h
  · next label args hstatement =>
    rw [hstatement] at hle
    dsimp only at hle
    rw [gosubs_gosub, gosubs_goto, hcore]
    split
    · next hclear =>
      rw [if_pos hclear] at hle
      exact List.eq_nil_of_length_eq_zero (Nat.le_zero.mp hle) ▸ List.nil_suffix
    · next hclear =>
      rw [if_neg hclear] at hle
      have hrest : fs <:+ if comesBack env label (core env statement s).script
          then s.gosubs.tail else s.gosubs := by
        split
        · next hback => rw [if_pos hback] at hle; exact suffix_tail h hle
        · exact h
      split
      · exact h
      · split
        · exact hrest.trans (List.suffix_cons ..)
        · exact hrest
  · exact h

end Script

end StreamScript
