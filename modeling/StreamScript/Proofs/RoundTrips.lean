import StreamScript.Proofs.Blocks.Meaning
import StreamScript.Proofs.Blocks.Passing
import StreamScript.Proofs.Runs

/-!
# Calls that come back

A subroutine that consists of lines which are carried out one after another comes back
to the line behind the call.  On the way the variables may become anything, but the
arguments of the script are changed by `shift` alone, so how many are left can be read
off the lines.  `InFront` keeps track of a running script by just as much: its place,
its variables, the loop guard with the clock it reads, and the open subroutines.

Two jumps are made, and each is counted.  A call for which there is no room and a jump
that the loop guard stops end the script (`InFront.gosub_of_not`,
`InFront.leave_of_not`).
-/

namespace StreamScript

open Text

namespace Statement

/-- Whether a statement lets the next line run, whatever else it does. -/
def runsOn : Statement → Bool
  | .random .. => true
  | s => s.isDirect

theorem isDirect_or_of_runsOn {statement : Statement} (h : statement.runsOn = true) :
    statement.isDirect = true ∨ ∃ lo hi, statement = .random lo hi := by
  cases statement with
  | random lo hi => exact .inr ⟨lo, hi, rfl⟩
  | _ => exact .inl h

theorem args_perform (env : Env) (statement : Statement) (v : View) :
    (statement.perform env v).scopes.args =
      if statement = .shift then v.scopes.args.tail else v.scopes.args := by
  cases statement with
  | shift =>
    rw [if_pos rfl, perform]
    change v.scopes.shiftArgs.args = _
    unfold Scopes.shiftArgs
    split
    · next h => rw [h]; rfl
    · next h => rw [h]; rfl
  | math var op number =>
    change (v.calculate env var op number).scopes.args = v.scopes.args
    rw [View.calculate]
    dsimp only
    split
    · rfl
    · split <;> rfl
  | _ => rfl

end Statement

/-- The arguments behind a line. -/
def Line.argsBehind (line : Line) (args : List String) : List String :=
  if line.statement? = some .shift then args.tail else args

/-- Whether a line lets the next one run; one that is not understood does. -/
def Line.RunsOn (line : Line) : Prop :=
  ∀ s ∈ line.statement?, s.runsOn = true

instance (line : Line) : Decidable line.RunsOn :=
  inferInstanceAs (Decidable (∀ s ∈ line.statement?, s.runsOn = true))

/-- The loop guard and how often the clock has been read: what the guard finds at the next jump
depends on both. -/
structure Watch where
  guard : LoopGuard
  readings : Nat

namespace Watch

/-- One more jump has been counted. -/
def next (w : Watch) (env : Env) : Watch where
  guard := w.guard.record env.settings.loopWindow (env.clock w.readings)
  readings := w.readings + 1

/-- Whether one more jump is let through. -/
def allows (w : Watch) (env : Env) : Bool :=
  !(w.next env).guard.tripped env.settings.loopLimit

end Watch

namespace Script

variable {env : Env} {p : Program} {q : Nat} {s t : Script} {line : Line} {statement : Statement}

/-- A statement that lets the next line run does not ask what time it is. -/
theorem readings_execute (env : Env) (h : statement.runsOn = true) (s : Script) :
    (execute env statement s).2.readings = s.readings := by
  cases statement with
  | label | comment | shift | debug | echo | put | send | printBox | save | setVar | unsetVar | math
  | random | eval | evalMath | action | toggleAction =>
    exact (execute_sameStand s env rfl).2.readings
  | matchText | matchRegex => rfl
  | _ => cases h

/-- It changes the arguments only when it drops one. -/
theorem execute_of_runsOn (env : Env) (h : statement.runsOn = true) (s : Script) :
    (execute env statement s).1 = .next ∧ SameCourse s (execute env statement s).2 ∧
      (execute env statement s).2.scopes.args =
        if statement = .shift then s.scopes.args.tail else s.scopes.args := by
  rcases Statement.isDirect_or_of_runsOn h with hdirect | ⟨lo, hi, rfl⟩
  · obtain ⟨hflow, hview⟩ := s.view_execute env hdirect
    refine ⟨hflow, execute_sameCourse env (Statement.steers_of_isDirect hdirect) s, ?_⟩
    rw [scopes_eq_view, hview]
    exact statement.args_perform env s.view
  · refine ⟨rfl, execute_sameCourse env rfl s, ?_⟩
    change (doRandom env lo hi s).scopes.args = s.scopes.args
    rw [doRandom]
    dsimp only
    split
    · rw [scopes_eq_view, view_setLocal]
      rfl
    · rfl

/-! ## Where a script is -/

/-- What decides how a script goes on besides its place and what it waits for. -/
structure Situation where
  scopes : Scopes
  watch : Watch
  gosubs : List Gosub

/-- What the loop guard of a script goes by. -/
def loopWatch (s : Script) : Watch :=
  ⟨s.guard, s.readings⟩

theorem SameButPlace.loopWatch {s t : Script} (h : SameButPlace s t) :
    t.loopWatch = s.loopWatch := by
  rw [Script.loopWatch, h.guard, h.readings, Script.loopWatch]

def situation (s : Script) : Situation :=
  ⟨s.scopes, s.loopWatch, s.gosubs⟩

/-- A running script in front of a line, or behind the line that it carries out. -/
structure InFront (p : Program) (q : Nat) (c : Situation) (s : Script) : Prop where
  program : s.walk.program = p
  next : s.walk.next = q
  phase : s.phase = .running
  scopes : s.scopes = c.scopes
  watch : s.loopWatch = c.watch
  gosubs : s.gosubs = c.gosubs

variable {c : Situation} {scopes : Scopes} {watch : Watch} {outer : List Gosub} {frame : Gosub}

theorem inFront (h : s.phase = .running) : InFront s.walk.program s.walk.next s.situation s :=
  ⟨rfl, rfl, h, rfl, rfl, rfl⟩

namespace InFront

theorem nextLine? (h : InFront p q c s) : s.nextLine? = p.lines[q]? := by
  rw [Script.nextLine?, if_pos h.phase, h.program, h.next]

theorem sameCourse (h : InFront p q c s) (hc : SameCourse s t) :
    InFront p q { c with scopes := t.scopes, watch := t.loopWatch } t :=
  ⟨hc.walk ▸ h.program, hc.walk ▸ h.next, hc.phase.trans h.phase, rfl, rfl,
    hc.gosubs.trans h.gosubs⟩

/-- What does not ask for the time leaves the loop guard as watchful as it was. -/
theorem sameWatch (h : InFront p q c s) (hc : SameCourse s t)
    (hreadings : t.readings = s.readings) : InFront p q { c with scopes := t.scopes } t := by
  have hwatch : t.loopWatch = c.watch := by
    rw [← h.watch, loopWatch, hc.guard, hreadings]
    rfl
  have hfront := h.sameCourse hc
  rwa [hwatch] at hfront

theorem sameStand (h : InFront p q c s) (hc : SameStand s t) :
    InFront p q { c with scopes := t.scopes } t :=
  h.sameWatch hc.sameCourse hc.readings

theorem atStatement (h : InFront p q c s) (line : Line) (statement : Statement) :
    InFront p (q + 1) c (s.atStatement line statement) := by
  have hbehind : InFront p (q + 1) c (s.behindLine.remember line) :=
    ⟨h.program, congrArg Nat.succ h.next, h.phase, h.scopes, h.watch, h.gosubs⟩
  rw [Script.atStatement]
  unfold closeSingle
  split
  · exact hbehind
  · refine iteInduction (fun _ => ?_) fun _ => hbehind
    exact ⟨hbehind.program, hbehind.next, hbehind.phase, hbehind.scopes, hbehind.watch,
      hbehind.gosubs⟩

theorem step_eq (env : Env) (h : InFront p q c s) (hline : p.lines[q]? = some line)
    (hs : line.statement? = some statement) :
    step env s = proceed (execute env statement (s.atStatement line statement)) := by
  have hnext : s.nextLine? = some line := h.nextLine?.trans hline
  rw [step_of_nextLine? env hnext, runLine_of_statement env hnext hs]

/-- A line whose statement says so ends the script. -/
theorem step_of_exit (h : InFront p q c s) (hline : p.lines[q]? = some line)
    (hs : line.statement? = some statement)
    (hexit : (execute env statement (s.atStatement line statement)).1 = .exit) :
    ∃ t, step env s = .done t ∧ t.phase = .stopped := by
  have hphase := phase_execute env statement (s.atStatement line statement)
  rw [(h.atStatement line statement).phase] at hphase
  rw [h.step_eq env hline hs]
  generalize execute env statement (s.atStatement line statement) = r at hexit hphase
  obtain ⟨flow, t⟩ := r
  obtain rfl : flow = .exit := hexit
  exact ⟨t.cancel, rfl, by rw [cancel, isStopped, show t.phase = _ from hphase]; rfl⟩

/-- A line that lets the next one run. -/
theorem step_of_runsOn (env : Env) (h : InFront p q c s) (hline : p.lines[q]? = some line)
    (hruns : line.RunsOn) :
    ∃ t, step env s = .again t ∧ InFront p (q + 1) { c with scopes := t.scopes } t ∧
      t.scopes.args = line.argsBehind c.scopes.args := by
  cases hs : line.statement? with
  | none =>
    have hnext : s.nextLine? = some line := h.nextLine?.trans hline
    have hbehind : InFront p (q + 1) c s.behindLine :=
      ⟨h.program, congrArg Nat.succ h.next, h.phase, h.scopes, h.watch, h.gosubs⟩
    have hc := (s.behindLine.sameStand_remember line).trans
      (sameStand_report _ ("unknown command '" ++ line.text ++ "'"))
    refine ⟨_, ?_, hbehind.sameStand hc, ?_⟩
    · rw [step_of_nextLine? env hnext, runLine_of_no_statement env hnext hs, proceed]
    · rw [Line.argsBehind, hs, if_neg (Option.some_ne_none _).symm]
      exact congrArg Scopes.args h.scopes
  | some statement =>
    have hat := h.atStatement line statement
    obtain ⟨hflow, hc, hargs⟩ :=
      execute_of_runsOn env (hruns statement hs) (s.atStatement line statement)
    rw [hat.scopes] at hargs
    refine ⟨(execute env statement (s.atStatement line statement)).2, ?_,
      hat.sameWatch hc (readings_execute env (hruns statement hs) _), ?_⟩
    · rw [h.step_eq env hline hs]
      generalize execute env statement (s.atStatement line statement) = r at hflow
      obtain ⟨flow, t⟩ := r
      obtain rfl : flow = .next := hflow
      rfl
    · rw [hargs, Line.argsBehind, hs]
      simp only [Option.some.injEq]

end InFront

/-! ## Calls and returns -/

namespace InFront

theorem fst_countJump (h : InFront p q c s) : (countJump env s).1 = !c.watch.allows env := by
  rw [Script.fst_countJump, Watch.allows, Bool.not_not, ← h.watch]
  rfl

theorem withGosubs (h : InFront p q c s) (gosubs : List Gosub) :
    InFront p q { c with gosubs := gosubs } { s with gosubs := gosubs } :=
  ⟨h.program, h.next, h.phase, h.scopes, h.watch, rfl⟩

/-- A script that has come to a label. -/
theorem arrived {name : String} (h : InFront p q c s) (target : Label) (args : LabelArgs) :
    ∃ scopes, scopes.args = c.scopes.args ∧
      InFront p (min target.line p.lines.size) ⟨scopes, c.watch.next env, c.gosubs⟩
        ((s.counted env).arrived env name target args) := by
  have hmoved : InFront p (min target.line p.lines.size)
      ⟨c.scopes, c.watch.next env, c.gosubs⟩
      { (s.counted env).clearWaits with
        walk := { s.walk with ifs := [] }.moveTo target.line } :=
    ⟨h.program, by rw [← h.program]; rfl, h.phase, h.scopes, by rw [← h.watch]; rfl, h.gosubs⟩
  have harrived := sameStand_arrived env name target args (s.counted env)
  refine ⟨_, ?_, hmoved.sameStand harrived⟩
  rw [Script.arrived]
  dsimp only
  rw [scopes_debug, ← h.scopes]
  cases args <;> rfl

/-- A call that is let through comes to its label. -/
theorem gosub {label : String} {target : Label} (args : String) (h : InFront p q c s)
    (hclear : sameName label "clear" = false)
    (hlabel : p.label? (s.labelName env label) = some target)
    (hroom : c.gosubs.length < env.settings.maxGosubs) (hguard : c.watch.allows env = true) :
    ∃ t scopes frame, Script.gosub env label args s = (.next, t) ∧ frame.next = q ∧
      scopes.args = c.scopes.args ∧
      InFront p (min target.line p.lines.size) ⟨scopes, c.watch.next env, frame :: c.gosubs⟩ t := by
  have hcount : (countJump env s).1 = false := by rw [h.fst_countJump, hguard]; rfl
  have hgoto := goto_of_label (h.program.symm ▸ hlabel) hcount (.text args)
  obtain ⟨scopes, hargs, hfront⟩ := h.arrived target (.text args)
  refine ⟨_, scopes, s.hereFrame, gosub_of_goto hclear (h.gosubs ▸ hroom) hgoto, h.next, hargs, ?_⟩
  have hgosubs := hfront.gosubs
  rw [hgosubs]
  exact hfront.withGosubs _

/-- A call that is not let through ends the script. -/
theorem gosub_of_not {label : String} {target : Label} (args : String) (h : InFront p q c s)
    (hclear : sameName label "clear" = false)
    (hlabel : p.label? (s.labelName env label) = some target)
    (hnot : c.gosubs.length < env.settings.maxGosubs → c.watch.allows env = false) :
    (Script.gosub env label args s).1 = .exit := by
  have hresult := gosubResult env label args s
  generalize Script.gosub env label args s = r at hresult ⊢
  have hgoto (hroom : s.gosubs.length < env.settings.maxGosubs) :
      (goto env label (.text args) s).1 = .exit := by
    have hcount : (countJump env s).1 = true := by
      rw [h.fst_countJump, hnot (h.gosubs ▸ hroom)]
      rfl
    have hresult := gotoResult env label (.text args) s
    generalize goto env label (.text args) s = r at hresult ⊢
    rw [← h.program] at hlabel
    cases hresult with
    | leaves hnone => rw [hlabel] at hnone; cases hnone
    | lost | tripped => rfl
    | lands _ hpassed => rw [hcount] at hpassed; cases hpassed
  cases hresult with
  | forgets hforgets => rw [hclear] at hforgets; cases hforgets
  | full => rfl
  | opens _ hroom hnext => rw [hgoto hroom] at hnext; cases hnext
  | fails _ hroom => exact hgoto hroom

/-- A return that is let through comes back behind the call. -/
theorem leave (h : InFront p q ⟨scopes, watch, frame :: outer⟩ s)
    (hguard : watch.allows env = true) :
    ∃ t scopes', Script.leave env s = (.next, t) ∧ scopes'.args = scopes.args ∧
      InFront p (min frame.next p.lines.size) ⟨scopes', watch.next env, outer⟩ t := by
  have houter := h.withGosubs outer
  have hcount : (countJump env { s with gosubs := outer }).1 = false := by
    rw [houter.fst_countJump, hguard]
    rfl
  have hreturned := sameStand_returned frame (counted env { s with gosubs := outer })
  have hmoved : InFront p (min frame.next p.lines.size) ⟨scopes, watch.next env, outer⟩
      { counted env { s with gosubs := outer } with
        walk := { s.walk with ifs := frame.ifs }.moveTo frame.next } :=
    ⟨h.program, by rw [← h.program]; rfl, h.phase, h.scopes, congrArg (·.next env) h.watch, rfl⟩
  refine ⟨_, _, ?_, ?_, hmoved.sameStand hreturned⟩
  · rw [Script.leave, h.gosubs]
    dsimp only
    rw [countJump_of_passed hcount]
    rfl
  · have hargs : s.scopes.args = scopes.args := congrArg Scopes.args h.scopes
    rw [returned, scopes_debug]
    exact hargs

/-- A return that is not let through ends the script. -/
theorem leave_of_not (h : InFront p q ⟨scopes, watch, frame :: outer⟩ s)
    (hnot : watch.allows env = false) : (Script.leave env s).1 = .exit := by
  have hcount : (countJump env { s with gosubs := outer }).1 = true := by
    rw [(h.withGosubs outer).fst_countJump, hnot]
    rfl
  have hresult := leaveResult env s
  generalize Script.leave env s = r at hresult ⊢
  cases hresult with
  | unopened | tripped => rfl
  | back hgosubs hpassed =>
    obtain ⟨-, rfl⟩ := List.cons.inj (h.gosubs.symm.trans hgosubs)
    rw [hcount] at hpassed
    cases hpassed

end InFront

end Script

/-! ## Subroutines -/

namespace Program

/-- The lines of a subroutine, from its label to the return. -/
def subroutine (p : Program) (label : Nat) : List Line :=
  (p.lines.toList.drop label).takeWhile fun line => line.statement? ≠ some .leave

/-- The number of arguments that a subroutine drops. -/
def dropped (p : Program) (label : Nat) : Nat :=
  (p.subroutine label).countP fun line => line.statement? = some .shift

/-- A subroutine that consists of lines which let the next one run, and a return. -/
structure ComesBack (p : Program) (label : Nat) : Prop where
  runsOn : ∀ line ∈ p.subroutine label, line.RunsOn
  returns : p.statement? (label + (p.subroutine label).length) = some .leave

theorem from_subroutine (p : Program) (label : Nat) :
    ∃ rest, p.From label (p.subroutine label ++ rest) :=
  ⟨_, (List.takeWhile_append_dropWhile).symm⟩

namespace ComesBack

variable {p : Program} {label : Nat}

theorem exists_return (h : p.ComesBack label) :
    ∃ line, p.lines[label + (p.subroutine label).length]? = some line ∧
      line.statement? = some .leave :=
  Option.bind_eq_some_iff.mp h.returns

theorem lt_size (h : p.ComesBack label) : label < p.lines.size := by
  obtain ⟨line, hline, -⟩ := h.exists_return
  have hlt := (Array.getElem?_eq_some_iff.mp hline).1
  omega

/-- The line of the label lets the next one run, or is the return. -/
theorem first (h : p.ComesBack label) {line : Line} (hline : p.lines[label]? = some line) :
    line.RunsOn ∨ line.statement? = some .leave := by
  obtain ⟨rest, hrest⟩ := p.from_subroutine label
  cases hlines : p.subroutine label with
  | nil =>
    obtain ⟨line', hline', hleave⟩ := h.exists_return
    rw [hlines, List.length_nil, Nat.add_zero, hline] at hline'
    obtain rfl := Option.some.inj hline'
    exact .inr hleave
  | cons l lines =>
    rw [hlines] at hrest
    obtain rfl := Option.some.inj (hline.symm.trans hrest.head)
    exact .inl (h.runsOn line (by rw [hlines]; exact List.mem_cons_self ..))

end ComesBack

end Program

theorem foldl_argsBehind (lines : List Line) (args : List String) :
    lines.foldl (fun args line => line.argsBehind args) args =
      args.drop (lines.countP fun line => line.statement? = some .shift) := by
  induction lines generalizing args with
  | nil => rfl
  | cons line lines ih =>
    rw [List.foldl_cons, ih, List.countP_cons, Line.argsBehind]
    by_cases hs : line.statement? = some .shift
    · rw [if_pos hs, if_pos (decide_eq_true hs), List.drop_tail]
    · rw [if_neg hs, if_neg (by rwa [decide_eq_true_iff]), Nat.add_zero]

namespace Script

variable {env : Env} {p : Program} {q : Nat} {s : Script} {c : Situation} {frame : Gosub}
  {outer : List Gosub}

/-- Lines that let the next one run are carried out one after another. -/
theorem InFront.runs_of_runsOn (env : Env) {lines rest : List Line} (h : InFront p q c s)
    (hfrom : p.From q (lines ++ rest)) (hruns : ∀ line ∈ lines, line.RunsOn) :
    ∃ met t scopes, Runs env s met t ∧
      InFront p (q + lines.length) { c with scopes := scopes } t ∧
      scopes.args = c.scopes.args.drop (lines.countP fun line => line.statement? = some .shift) ∧
      ∀ u ∈ met, u.gosubs = c.gosubs ∧ ∃ line ∈ lines, u.nextLine? = some line := by
  induction lines generalizing q c s with
  | nil => exact ⟨[], s, c.scopes, .nil s, h, rfl, List.forall_mem_nil _⟩
  | cons line lines ih =>
    obtain ⟨hline, hlines⟩ := List.forall_mem_cons.mp hruns
    obtain ⟨s', hstep, hfront, hargs⟩ := h.step_of_runsOn env hfrom.head hline
    obtain ⟨met, t, scopes, hmet, ht, hargs', hall⟩ := ih hfront hfrom.tail hlines
    refine ⟨s :: met, t, scopes, .cons hstep hmet, ?_, ?_, ?_⟩
    · rw [List.length_cons, Nat.add_comm lines.length, ← Nat.add_assoc]
      exact ht
    · rw [hargs', ← foldl_argsBehind, ← foldl_argsBehind, List.foldl_cons]
      exact congrArg (fun args => lines.foldl (fun args line => line.argsBehind args) args) hargs
    · refine List.forall_mem_cons.mpr ⟨⟨h.gosubs, line, List.mem_cons_self .., ?_⟩, ?_⟩
      · exact h.nextLine?.trans hfrom.head
      · intro u hu
        obtain ⟨hgosubs, line', hmem, hnext⟩ := hall u hu
        exact ⟨hgosubs, line', List.mem_cons_of_mem _ hmem, hnext⟩

end Script

end StreamScript
