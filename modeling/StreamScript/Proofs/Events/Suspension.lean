import StreamScript.Proofs.Events.Heeding

/-!
# What actions do to a script that waits

While a script waits, lines that it does not wait for still set off its actions.
This module says what becomes of the wait when their commands are harmless.

Commands that only send something out or change what the script knows leave the
script where it stands, with one exception: forgetting the open subroutines has the
form of a jump, and is taken for one, so that the script runs on although nothing
it waits for has come (`suspension_kept_iff`).

Conditionals are carried out as if they were the line that ran last.  Each leaves
behind an open conditional of that line, and one that holds passes over the lines
that would have been its rivals there; the wait is not touched
(`conditionals_keep_suspension_iff`).
-/

namespace StreamScript

open Text

/-! ## Waits -/

namespace Script

variable {env : Env} {line : String} {s t u : Script}

/-- Two states in the same phase that wait for the same. -/
structure SameWaits (s t : Script) : Prop where
  phase : t.phase = s.phase
  targets : t.targets = s.targets
  matchSet : t.matchSet? = s.matchSet?
  wait : t.wait? = s.wait?
  timer : t.timer? = s.timer?

/-- Two states that wait for the same at the same place, with the same conditionals open. -/
structure SameSuspension (s t : Script) : Prop extends SameWaits s t where
  walk : t.walk = s.walk

namespace SameWaits

theorem trans (h : SameWaits s t) (h' : SameWaits t u) : SameWaits s u where
  phase := h'.phase.trans h.phase
  targets := h'.targets.trans h.targets
  matchSet := h'.matchSet.trans h.matchSet
  wait := h'.wait.trans h.wait
  timer := h'.timer.trans h.timer

theorem findMatch? (h : SameWaits s t) (env : Env) (line : String) :
    Script.findMatch? env line t = Script.findMatch? env line s := by
  rw [Script.findMatch?, Script.findMatch?, h.matchSet, h.targets]

/-- What a line does for the wait of a script depends on nothing else. -/
theorem isSatisfiedBy (h : SameWaits s t) (env : Env) (line : String) :
    t.isSatisfiedBy env line = s.isSatisfiedBy env line := by
  rw [Script.isSatisfiedBy, Script.isSatisfiedBy, h.wait, h.findMatch? env line]

end SameWaits

theorem SameSuspension.trans (h : SameSuspension s t) (h' : SameSuspension t u) :
    SameSuspension s u where
  toSameWaits := h.toSameWaits.trans h'.toSameWaits
  walk := h'.walk.trans h.walk

theorem SameButPlace.sameWaits (h : SameButPlace s t) : SameWaits s t where
  phase := h.phase
  targets := h.targets
  matchSet := h.matchSet
  wait := h.wait
  timer := h.timer

theorem SameStand.sameWaits (h : SameStand s t) : SameWaits s t :=
  h.sameButPlace.sameWaits

theorem SameStand.sameSuspension (h : SameStand s t) : SameSuspension s t :=
  ⟨h.sameWaits, h.walk⟩

/-- A script that is left waiting for the same by actions that neither end it nor make it run on is
left at rest by a line that it does not wait for. -/
theorem onLine_of_sameWaits (hphase : s.phase = .running)
    (hunsat : s.isSatisfiedBy env line = false)
    (hstay : ∀ o ∈ s.orders env line, o.reaction env = .stayed)
    (hwaits : SameWaits s (s.react env line).2) :
    onLine env line s = (s.react env line).2 ∧ s.linesRunOn env line = [] := by
  obtain ⟨hruns, honLine⟩ := onLine_of_stayed hphase (react_of_stayed hstay)
    ((hwaits.isSatisfiedBy env line).trans hunsat)
  refine ⟨honLine, ?_⟩
  rw [linesRunOn, hruns]
  rfl

end Script

/-! ## Commands that transfer no control -/

/-- Whether a statement forgets the open subroutines. -/
def Statement.clearsGosubs : Statement → Bool
  | .gosub name _ => sameName name "clear"
  | _ => false

namespace Order

variable {env : Env} {o : Order} {statement : Statement}

/-- Whether a command forgets the open subroutines. -/
def clearsGosubs (o : Order) : Bool :=
  o.statement?.any Statement.clearsGosubs

/-- Whether a command transfers no control: it only sends something out or changes what the script
knows, forgets the open subroutines, or is not understood. -/
def isQuiet (o : Order) : Bool :=
  o.statement?.all fun statement => statement.isAside || statement.clearsGosubs

theorem outcome_of_some (env : Env) (h : o.statement? = some statement) :
    o.outcome env = ((Script.execute env statement (o.script.setVerbatim true)).1,
      (Script.execute env statement (o.script.setVerbatim true)).2.setVerbatim false) := by
  rw [outcome, h]

theorem execute_of_clearsGosubs (env : Env) (h : statement.clearsGosubs = true) (s : Script) :
    Script.execute env statement s = (.next, { s with gosubs := [] }) := by
  cases statement with
  | gosub label args => exact if_pos h
  | _ => cases h

/-- What a command does to a suspended script is what its statement does. -/
theorem sameSuspension_of_execute (h : o.statement? = some statement)
    (hs : Script.SameSuspension (o.script.setVerbatim true)
      (Script.execute env statement (o.script.setVerbatim true)).2) :
    Script.SameSuspension o.script (o.outcome env).2 := by
  rw [outcome_of_some env h]
  exact ((o.script.sameStand_setVerbatim true).sameSuspension.trans hs).trans
    (Script.sameStand_setVerbatim _ false).sameSuspension

/-- **A command that transfers no control leaves the wait as it is**, and is followed by the
next. -/
theorem outcome_of_isQuiet (env : Env) (h : o.isQuiet = true) :
    (o.outcome env).1 = .next ∧ Script.SameSuspension o.script (o.outcome env).2 := by
  cases hstatement : o.statement? with
  | none =>
    rw [outcome, hstatement]
    exact ⟨rfl, (o.script.sameStand_report _).sameSuspension⟩
  | some statement =>
    rw [isQuiet, hstatement, Option.all_some, Bool.or_eq_true] at h
    rcases h with haside | hclears
    · obtain ⟨hnext, hsame⟩ := (o.script.setVerbatim true).execute_sameStand env haside
      refine ⟨?_, sameSuspension_of_execute hstatement hsame.sameSuspension⟩
      rw [outcome_of_some env hstatement, hnext]
    · have hexec := execute_of_clearsGosubs env hclears (o.script.setVerbatim true)
      refine ⟨?_, sameSuspension_of_execute hstatement ?_⟩
      · rw [outcome_of_some env hstatement, hexec]
      · rw [hexec]
        exact ⟨⟨rfl, rfl, rfl, rfl, rfl⟩, rfl⟩

theorem isJump_of_isAside (h : statement.isAside = true) : Script.isJump statement = false := by
  cases statement with
  | goto | gosub => cases h
  | _ => rfl

/-- Of the commands that transfer no control, the one that forgets the open subroutines makes the
script run on. -/
theorem reaction_of_isQuiet (env : Env) (h : o.isQuiet = true) :
    o.reaction env = if o.clearsGosubs then .jumped else .stayed := by
  rw [reaction, (outcome_of_isQuiet env h).1]
  dsimp only
  cases hstatement : o.statement? with
  | none => rw [clearsGosubs, hstatement]; rfl
  | some statement =>
    rw [isQuiet, hstatement, Option.all_some, Bool.or_eq_true] at h
    rw [clearsGosubs, hstatement, Option.any_some, Option.any_some]
    rcases h with haside | hclears
    · have hclears : statement.clearsGosubs = false := by
        cases statement with
        | gosub => cases haside
        | _ => rfl
      rw [isJump_of_isAside haside, hclears]
    · have hjump : Script.isJump statement = true := by
        cases statement with
        | gosub => rfl
        | _ => cases hclears
      rw [hjump, hclears]

end Order

namespace Script

variable {env : Env} {line : String} {s t : Script}

/-- A script that runs on and has no line left ends, and the line is not heeded any more. -/
theorem phase_onLine_of_no_line (hphase : s.phase = .running)
    (hreact : s.react env line = (.jumped, t)) (ht : t.phase = .running)
    (hnext : t.nextLine? = none) : (onLine env line s).phase = .stopped := by
  have hsize : ¬ t.walk.next < t.walk.program.lines.size := by
    rw [nextLine?, if_pos ht] at hnext
    exact Nat.not_lt.mpr (Array.getElem?_eq_none_iff.mp hnext)
  have hrun : run env t = t.cancel := by
    rw [run, stepBound, steps, step_of_advance?_eq_none env ht (if_neg hsize)]
  have hstopped := t.phase_of_cancel
  have hheed : t.cancel.heedPlan env line = .rest t.cancel :=
    heedPlan_of_not_running (by rw [hstopped]; decide)
  rw [(onLine_of_jumped hphase hreact).2, hrun, hheed]
  exact hstopped

/-- **When a wait outlasts harmless commands.**  Take a running script and a line that it does not
wait for, and let every command that the line sets off be one that transfers no control.  Then the
script stands where it stood, waits for what it waited for and has run no line, exactly when none of
these commands forgets the open subroutines. -/
theorem suspension_kept_iff (hphase : s.phase = .running)
    (hunsat : s.isSatisfiedBy env line = false)
    (hquiet : ∀ o ∈ s.orders env line, o.isQuiet = true) :
    SameSuspension s (onLine env line s) ∧ s.linesRunOn env line = [] ↔
      ∀ o ∈ s.orders env line, o.clearsGosubs = false := by
  have hreaction : ∀ o ∈ s.orders env line,
      o.reaction env = if o.clearsGosubs then .jumped else .stayed :=
    fun o ho => Order.reaction_of_isQuiet env (hquiet o ho)
  have hsame : SameSuspension s (s.react env line).2 :=
    (carries_react env line s).related SameStand.sameSuspension SameSuspension.trans
      fun o ho => (Order.outcome_of_isQuiet env (hquiet o ho)).2
  constructor
  · rintro ⟨hkept, hlines⟩ o ho
    cases hclears : o.clearsGosubs with
    | false => rfl
    | true =>
      have hjumped : (s.react env line).1 = .jumped := by
        rw [fst_react, Reaction.overall_eq_jumped_iff]
        refine ⟨.inr (List.mem_map.mpr ⟨o, ho, ?_⟩), ?_⟩
        · rw [hreaction o ho, hclears, if_pos rfl]
        · rintro hended
          obtain ⟨o', ho', hended⟩ := List.mem_map.mp hended
          rw [hreaction o' ho'] at hended
          split at hended <;> cases hended
      have hreact : s.react env line = (.jumped, (s.react env line).2) := Prod.ext hjumped rfl
      have ht : (s.react env line).2.phase = .running := hsame.phase.trans hphase
      -- the script runs on: a line runs, or there is none and the script ends
      rw [linesRunOn, (onLine_of_jumped hphase hreact).1, List.flatMap_cons,
        List.append_eq_nil_iff, linesFrom_eq_nil_iff] at hlines
      have hstopped := phase_onLine_of_no_line hphase hreact ht hlines.1
      rw [hkept.phase, hphase] at hstopped
      cases hstopped
  · intro hnone
    have hstay : ∀ o ∈ s.orders env line, o.reaction env = .stayed := by
      intro o ho
      rw [hreaction o ho, hnone o ho, if_neg Bool.false_ne_true]
    obtain ⟨honLine, hlines⟩ := onLine_of_sameWaits hphase hunsat hstay hsame.toSameWaits
    rw [honLine]
    exact ⟨hsame, hlines⟩

/-- A script that echoes something when it is told to stop. -/
def echoer : Script :=
  watcher "echo seen" ["echo gone"]

/-- It goes on waiting. -/
theorem suspension_kept_echoer :
    echoer.phase = .running ∧ echoer.isSatisfiedBy {} "Stop" = false ∧
      echoer.orders {} "Stop" = [watchOrder "echo seen" ["echo gone"]] ∧
      SameSuspension echoer (onLine {} "Stop" echoer) ∧ echoer.linesRunOn {} "Stop" = [] := by
  have hphase : echoer.phase = .running := by decide +kernel
  have hunsat : echoer.isSatisfiedBy {} "Stop" = false := by decide +kernel
  obtain ⟨horders, -⟩ : echoer.orders {} "Stop" = [watchOrder "echo seen" ["echo gone"]] ∧ _ :=
    react_watcher "echo seen" ["echo gone"] (by decide +kernel) (by decide +kernel)
      (by decide +kernel) rfl
  have hquiet : ∀ o ∈ echoer.orders {} "Stop", o.isQuiet = true := by
    rw [horders, List.forall_mem_singleton]
    decide +kernel
  have hkeeps : ∀ o ∈ echoer.orders {} "Stop", o.clearsGosubs = false := by
    rw [horders, List.forall_mem_singleton]
    decide +kernel
  exact ⟨hphase, hunsat, horders, (suspension_kept_iff hphase hunsat hquiet).mpr hkeeps⟩

/-- A script that forgets its subroutines when it is told to stop. -/
def clearer : Script :=
  watcher "gosub clear" ["echo gone"]

/-- **It no longer waits**: the line behind its wait has run, and it has ended. -/
theorem suspension_lost_clearer :
    clearer.phase = .running ∧ clearer.isWaiting = true ∧
      clearer.isSatisfiedBy {} "Stop" = false ∧
      (∀ o ∈ clearer.orders {} "Stop", o.statement? = some (.gosub "clear" "")) ∧
      (clearer.linesRunOn {} "Stop").map (·.text) = ["echo gone"] ∧
      (onLine {} "Stop" clearer).phase = .stopped := by
  have hphase : clearer.phase = .running := by decide +kernel
  obtain ⟨horders, hreact⟩ : clearer.orders {} "Stop" = _ ∧ clearer.react {} "Stop" = _ :=
    react_watcher "gosub clear" ["echo gone"] (by decide +kernel) (by decide +kernel)
      (by decide +kernel) (show _ = Reaction.jumped by decide +kernel)
  obtain ⟨hruns, honLine⟩ := onLine_of_jumped hphase hreact
  -- the run that the command sets off comes to the end of the script
  rw [heedPlan_of_not_running (by decide +kernel)] at hruns honLine
  rw [linesRunOn, hruns, honLine, horders, List.forall_mem_singleton]
  decide +kernel

end Script

/-! ## Commands that are conditionals -/

/-- Whether a statement is a conditional that starts a chain, and whose body on the same line only
sends something out or changes what the script knows. -/
def Statement.isLoneTest : Statement → Bool
  | .single (.ifHolds _) body | .single (.ifArgs _) body => body.isAside
  | _ => false

/-- Whether a line is one that a conditional on one line rules out when it holds. -/
def Head.rulesOut : Head → Line → Bool
  | .ifArgs _ => Walk.isLoneIfArgs
  | _ => Walk.isLoneElse

theorem Walk.isSome_index?_iff {w : Walk} :
    w.index?.isSome = true ↔ 0 < w.next ∧ w.next ≤ w.program.lines.size := by
  rw [Walk.index?]
  split <;> simp_all

namespace Script

variable {env : Env} {line : String} {s t : Script}

theorem skipRivals_walk (head : Head) (s : Script) :
    s.skipRivals head = { s with walk := s.walk.skipWhile head.rulesOut } := by
  cases head <;> rfl

/-- The lines that a conditional rules out, if it holds. -/
def ruledOut (env : Env) (head : Head) (s : Script) : List Line :=
  if (decideHead env head s).1 then
    (s.walk.program.lines.toList.drop s.walk.next).takeWhile head.rulesOut
  else []

theorem length_ruledOut_le (env : Env) (head : Head) (s : Script) :
    (ruledOut env head s).length ≤ s.walk.program.lines.size - s.walk.next := by
  rw [ruledOut]
  split
  · refine Nat.le_trans (List.takeWhile_sublist _).length_le ?_
    exact Nat.le_of_eq (by rw [List.length_drop, Array.length_toList])
  · exact Nat.zero_le _

theorem enterSingle_of_startsChain (env : Env) {head : Head} {body : Statement}
    (h : (Statement.single head body).isLoneTest = true) (idx : Nat) (s : Script) :
    enterSingle env head idx s = ((decideHead env head s).1,
      (decideHead env head s).2.openFrame ⟨idx, (decideHead env head s).1⟩) := by
  cases head with
  | ifHolds | ifArgs => rfl
  | elseIf | otherwise => cases h

theorem isAside_of_isLoneTest {head : Head} {body : Statement}
    (h : (Statement.single head body).isLoneTest = true) : body.isAside = true := by
  cases head with
  | ifHolds | ifArgs => exact h
  | elseIf | otherwise => cases h

/-- **What a conditional on one line does besides its body**: it leaves an open conditional behind,
and the lines that it rules out are passed over. -/
theorem execute_isLoneTest (env : Env) {head : Head} {body : Statement} {idx : Nat}
    (h : (Statement.single head body).isLoneTest = true) (hidx : s.walk.index? = some idx) :
    (execute env (.single head body) s).1 = .next ∧
      SameWaits s (execute env (.single head body) s).2 ∧
      (execute env (.single head body) s).2.walk =
        { s.walk with
          next := s.walk.next + (ruledOut env head s).length
          ifs := ⟨idx, (decideHead env head s).1⟩ :: s.walk.ifs } := by
  have htest := s.sameStand_decideHead env head
  have hwalk : ((decideHead env head s).2.openFrame ⟨idx, (decideHead env head s).1⟩).walk =
      { s.walk with ifs := ⟨idx, (decideHead env head s).1⟩ :: s.walk.ifs } := by
    rw [openFrame, htest.walk]
    rfl
  have hopen : SameWaits s
      ((decideHead env head s).2.openFrame ⟨idx, (decideHead env head s).1⟩) :=
    htest.sameWaits.trans ⟨rfl, rfl, rfl, rfl, rfl⟩
  have henter := enterSingle_of_startsChain env h idx s
  rw [ruledOut]
  generalize (decideHead env head s).2.openFrame ⟨idx, (decideHead env head s).1⟩ = t at *
  generalize (decideHead env head s).1 = holds at *
  cases holds with
  | false =>
    rw [execute_single_of_false hidx henter]
    exact ⟨rfl, hopen, hwalk⟩
  | true =>
    obtain ⟨hnext, hbody⟩ := t.execute_sameStand env (isAside_of_isLoneTest h)
    -- the body leaves the script where it stands, so the lines behind it are looked at
    rw [execute_single_of_true hidx henter, if_pos (congrArg Walk.next hbody.walk),
      skipRivals_walk, hbody.walk, hwalk]
    exact ⟨hnext, hopen.trans (hbody.sameWaits.trans ⟨rfl, rfl, rfl, rfl, rfl⟩),
      rfl⟩

end Script

namespace Order

variable {env : Env} {o : Order}

/-- Whether a command is a conditional with a harmless body. -/
def isLoneTest (o : Order) : Bool :=
  o.statement?.any Statement.isLoneTest

/-- What a command that is a conditional tests. -/
def head? (o : Order) : Option Head :=
  match o.statement? with
  | some (.single head _) => some head
  | _ => none

/-- The conditional that a command leaves open: it counts as one of the line that ran last. -/
def frame (env : Env) (o : Order) : Frame :=
  ⟨o.script.walk.next - 1,
    o.head?.any fun head => (Script.decideHead env head (o.script.setVerbatim true)).1⟩

/-- The lines of the script that are passed over on behalf of a command. -/
def passedOver (env : Env) (o : Order) : List Line :=
  match o.head? with
  | some head => Script.ruledOut env head (o.script.setVerbatim true)
  | none => []

theorem exists_of_isLoneTest (h : o.isLoneTest = true) :
    ∃ head body, o.statement? = some (.single head body) ∧ o.head? = some head ∧
      (Statement.single head body).isLoneTest = true := by
  obtain ⟨statement, hstatement, htest⟩ := (Option.any_eq_true ..).mp h
  cases statement with
  | single head body =>
    refine ⟨head, body, hstatement, ?_, htest⟩
    rw [head?, hstatement]
  | _ => cases htest

/-- A conditional is carried out as if it stood on the line that ran last. -/
theorem outcome_of_isLoneTest (env : Env) (h : o.isLoneTest = true)
    (hidx : o.script.walk.index?.isSome = true) :
    o.reaction env = .stayed ∧ Script.SameWaits o.script (o.outcome env).2 ∧
      (o.outcome env).2.walk =
        { o.script.walk with
          next := o.script.walk.next + (o.passedOver env).length
          ifs := o.frame env :: o.script.walk.ifs } := by
  obtain ⟨head, body, hstatement, hhead, htest⟩ := exists_of_isLoneTest h
  obtain ⟨idx, hidx⟩ := Option.isSome_iff_exists.mp hidx
  have hline : idx = o.script.walk.next - 1 := by
    rw [Walk.index?] at hidx
    split at hidx
    · exact (Option.some.inj hidx).symm
    · cases hidx
  obtain ⟨hnext, hwaits, hwalk⟩ :=
    Script.execute_isLoneTest (s := o.script.setVerbatim true) env htest hidx
  have hframe : o.frame env =
      ⟨idx, (Script.decideHead env head (o.script.setVerbatim true)).1⟩ := by
    rw [frame, hhead, hline]
    rfl
  have hpassed : o.passedOver env = Script.ruledOut env head (o.script.setVerbatim true) := by
    rw [passedOver, hhead]
  refine ⟨?_, ?_, ?_⟩
  · rw [reaction, outcome_of_some env hstatement, hnext, hstatement]
    rfl
  · rw [outcome_of_some env hstatement]
    exact ((o.script.sameStand_setVerbatim true).sameWaits.trans hwaits).trans
      (Script.sameStand_setVerbatim _ false).sameWaits
  · rw [outcome_of_some env hstatement, hframe, hpassed]
    exact hwalk

/-- Where no line has run, a conditional ends the script. -/
theorem reaction_of_isLoneTest (env : Env) (h : o.isLoneTest = true)
    (hidx : o.script.walk.index? = none) : o.reaction env = .ended := by
  obtain ⟨head, body, hstatement, -, -⟩ := exists_of_isLoneTest h
  have hidx' : (o.script.setVerbatim true).walk.index? = none := hidx
  have hexit : (Script.execute env (.single head body) (o.script.setVerbatim true)).1 = .exit := by
    rw [Script.execute, hidx']
  rw [reaction, outcome_of_some env hstatement, hexit]

/-- However many lines are passed over, the script still stands behind one. -/
theorem isSome_index?_outcome (env : Env) (h : o.isLoneTest = true)
    (hidx : o.script.walk.index?.isSome = true) :
    (o.outcome env).2.walk.index?.isSome = true := by
  have hle : (o.passedOver env).length ≤
      o.script.walk.program.lines.size - o.script.walk.next := by
    obtain ⟨head, -, -, hhead, -⟩ := exists_of_isLoneTest h
    rw [passedOver, hhead]
    exact Script.length_ruledOut_le env head (o.script.setVerbatim true)
  rw [(outcome_of_isLoneTest env h hidx).2.2]
  rw [Walk.isSome_index?_iff] at hidx ⊢
  dsimp only
  omega

end Order

namespace Script

variable {env : Env} {line : String} {s t : Script} {orders : List Order}

/-- **What conditionals leave behind**: of each an open conditional, and the lines that they have
ruled out are passed over. -/
theorem Carries.of_isLoneTest (h : Carries env s orders t)
    (htest : ∀ o ∈ orders, o.isLoneTest = true) (hidx : s.walk.index?.isSome = true) :
    (∀ o ∈ orders, o.reaction env = .stayed) ∧ SameWaits s t ∧
      t.walk =
        { s.walk with
          next := s.walk.next + (orders.flatMap (·.passedOver env)).length
          ifs := (orders.map (·.frame env)).reverse ++ s.walk.ifs } := by
  induction h with
  | nil s => exact ⟨List.forall_mem_nil _, (SameStand.refl s).sameWaits, rfl⟩
  | note hsame _ ih =>
    obtain ⟨hstay, hwaits, hwalk⟩ := ih htest (by rw [hsame.walk]; exact hidx)
    rw [hsame.walk] at hwalk
    exact ⟨hstay, hsame.sameWaits.trans hwaits, hwalk⟩
  | @cons o _ orders _ ih =>
    have ho := htest o (List.mem_cons_self ..)
    obtain ⟨hstay, hwaits, hwalk⟩ := Order.outcome_of_isLoneTest env ho hidx
    obtain ⟨hstay', hwaits', hwalk'⟩ :=
      ih (fun o' ho' => htest o' (List.mem_cons_of_mem _ ho'))
        (Order.isSome_index?_outcome env ho hidx)
    refine ⟨List.forall_mem_cons.mpr ⟨hstay, hstay'⟩, hwaits.trans hwaits', ?_⟩
    rw [hwalk', hwalk]
    simp [Nat.add_assoc]

/-- Where no line has run, the first of some conditionals ends the script. -/
theorem Carries.exists_ended (h : Carries env s orders t)
    (htest : ∀ o ∈ orders, o.isLoneTest = true) (hidx : s.walk.index? = none)
    (hne : orders ≠ []) : ∃ o ∈ orders, o.reaction env = .ended := by
  induction h with
  | nil => exact absurd rfl hne
  | note hsame _ ih => exact ih htest (by rw [hsame.walk]; exact hidx) hne
  | @cons o _ orders _ _ =>
    have ho := htest o (List.mem_cons_self ..)
    exact ⟨o, List.mem_cons_self .., Order.reaction_of_isLoneTest env ho hidx⟩

/-- A script that an action ends is stopped. -/
theorem phase_onLine_of_ended (hphase : s.phase = .running)
    (h : ∃ o ∈ s.orders env line, o.reaction env = .ended) :
    (onLine env line s).phase = .stopped := by
  have hended : (s.react env line).1 = .ended := by
    rw [fst_react, Reaction.overall_eq_ended_iff]
    obtain ⟨o, ho, hreaction⟩ := h
    exact List.mem_map.mpr ⟨o, ho, hreaction⟩
  have hreact : s.react env line = (.ended, (s.react env line).2) := Prod.ext hended rfl
  rw [onLine_of_ended hphase hreact]
  exact phase_of_cancel _

/-- A script that stands behind a line goes on waiting, and keeps what the conditionals leave
behind. -/
theorem onLine_of_isLoneTest (hphase : s.phase = .running)
    (hunsat : s.isSatisfiedBy env line = false)
    (htest : ∀ o ∈ s.orders env line, o.isLoneTest = true)
    (hidx : s.walk.index?.isSome = true) :
    SameWaits s (onLine env line s) ∧ s.linesRunOn env line = [] ∧
      (onLine env line s).walk =
        { s.walk with
          next := s.walk.next + ((s.orders env line).flatMap (·.passedOver env)).length
          ifs := ((s.orders env line).map (·.frame env)).reverse ++ s.walk.ifs } := by
  obtain ⟨hstay, hwaits, hwalk⟩ := (carries_react env line s).of_isLoneTest htest hidx
  obtain ⟨honLine, hlines⟩ := onLine_of_sameWaits hphase hunsat hstay hwaits
  rw [honLine]
  exact ⟨hwaits, hlines, hwalk⟩

/-- A line that sets off no command and is not waited for leaves a script as it was. -/
theorem sameSuspension_onLine_of_no_orders (hphase : s.phase = .running)
    (hunsat : s.isSatisfiedBy env line = false) (hnone : s.orders env line = []) :
    SameSuspension s (onLine env line s) := by
  have hcarries := carries_react env line s
  rw [hnone] at hcarries
  have hsame : SameSuspension s (s.react env line).2 :=
    hcarries.related SameStand.sameSuspension SameSuspension.trans (List.forall_mem_nil _)
  have hstay : ∀ o ∈ s.orders env line, o.reaction env = .stayed := by
    rw [hnone]
    exact List.forall_mem_nil _
  rw [(onLine_of_sameWaits hphase hunsat hstay hsame.toSameWaits).1]
  exact hsame

/-- **What conditionals of actions do to a script that waits.**  Take a running script and a line
that it does not wait for, and let every command that the line sets off be a conditional on one line
with a harmless body.  If the script stands behind a line, it goes on waiting for the same and runs
no line; but every one of the commands leaves a conditional open, and the lines that it has ruled
out are passed over.  So the script is left as it was only when the line sets off no command. -/
theorem conditionals_keep_suspension_iff (hphase : s.phase = .running)
    (hunsat : s.isSatisfiedBy env line = false)
    (htest : ∀ o ∈ s.orders env line, o.isLoneTest = true) :
    (s.walk.index?.isSome = true →
        SameWaits s (onLine env line s) ∧ s.linesRunOn env line = [] ∧
          (onLine env line s).walk =
            { s.walk with
              next := s.walk.next + ((s.orders env line).flatMap (·.passedOver env)).length
              ifs := ((s.orders env line).map (·.frame env)).reverse ++ s.walk.ifs }) ∧
      (SameSuspension s (onLine env line s) ↔ s.orders env line = []) := by
  refine ⟨onLine_of_isLoneTest hphase hunsat htest, ?_,
    sameSuspension_onLine_of_no_orders hphase hunsat⟩
  intro hkept
  cases hidx : s.walk.index? with
  | none =>
    apply Classical.byContradiction
    intro hne
    have hended := (carries_react env line s).exists_ended htest hidx hne
    have hstopped := phase_onLine_of_ended hphase hended
    rw [hkept.phase, hphase] at hstopped
    cases hstopped
  | some idx =>
    -- the conditionals left open are counted
    obtain ⟨-, -, hwalk⟩ := onLine_of_isLoneTest hphase hunsat htest (by rw [hidx]; rfl)
    have hlength : (onLine env line s).walk.ifs.length =
        (s.orders env line).length + s.walk.ifs.length := by
      rw [hwalk, List.length_append, List.length_reverse, List.length_map]
    rw [hkept.walk] at hlength
    exact List.length_eq_zero_iff.mp (by omega)

/-- A script with a conditional as its action that waits in front of another conditional. -/
def tester : Script :=
  watcher "if_0 then echo seen" ["if_0 then echo here", "echo end"]

/-- Told to stop, it goes on waiting, but not as it was. -/
theorem tester_keeps_waits :
    tester.phase = .running ∧ tester.isSatisfiedBy {} "Stop" = false ∧
      SameWaits tester (onLine {} "Stop" tester) ∧ tester.linesRunOn {} "Stop" = [] ∧
      ¬ SameSuspension tester (onLine {} "Stop" tester) := by
  have hphase : tester.phase = .running := by decide +kernel
  have hunsat : tester.isSatisfiedBy {} "Stop" = false := by decide +kernel
  obtain ⟨horders, -⟩ := react_watcher "if_0 then echo seen" ["if_0 then echo here", "echo end"]
    (by decide +kernel) (by decide +kernel) (by decide +kernel) rfl
  have htest : ∀ o ∈ tester.orders {} "Stop", o.isLoneTest = true := by
    rw [tester, horders, List.forall_mem_singleton]
    decide +kernel
  obtain ⟨hkeeps, hsame⟩ := conditionals_keep_suspension_iff hphase hunsat htest
  obtain ⟨hwaits, hlines, -⟩ := hkeeps (by decide +kernel)
  refine ⟨hphase, hunsat, hwaits, hlines, fun hkept => ?_⟩
  have hnone := hsame.mp hkept
  rw [tester, horders] at hnone
  cases hnone

/-- **The conditional of the action is left open, and the one behind the wait is passed over**: it
would run if the script had not been told to stop, and does not run now. -/
theorem tester_loses_line :
    tester.phase = .running ∧ tester.isWaiting = true ∧
      tester.isSatisfiedBy {} "Stop" = false ∧
      (∀ o ∈ tester.orders {} "Stop",
        o.statement? = some (.single (.ifArgs 0) (.echo "seen"))) ∧
      tester.walk.next = 2 ∧ tester.walk.ifs = [] ∧
      (onLine {} "Stop" tester).walk.next = 3 ∧
      (onLine {} "Stop" tester).walk.ifs = [⟨1, true⟩] ∧
      (linesFrom {} tester.clearWaits).map (·.text) = ["if_0 then echo here", "echo end"] ∧
      (linesFrom {} (onLine {} "Stop" tester).clearWaits).map (·.text) = ["echo end"] := by
  have hphase : tester.phase = .running := by decide +kernel
  obtain ⟨horders, hreact⟩ : tester.orders {} "Stop" = _ ∧ tester.react {} "Stop" = _ :=
    react_watcher "if_0 then echo seen" ["if_0 then echo here", "echo end"] (by decide +kernel)
      (by decide +kernel) (by decide +kernel) (show _ = Reaction.stayed by decide +kernel)
  obtain ⟨-, honLine⟩ := onLine_of_stayed hphase hreact (by decide +kernel)
  rw [honLine, horders, List.forall_mem_singleton]
  decide +kernel

end Script

end StreamScript
