import StreamScript.Proofs.Blocks.Meaning
import StreamScript.Proofs.Events.Happenings
import StreamScript.Proofs.Events.Suspension
import StreamScript.Proofs.Preceding

/-!
# Where subroutines return to

A subroutine may be open for long: others are called in it, the script jumps about,
waits, is paused and woken, and its actions give orders.  As long as it is not closed,
what it restores is kept below all that (`Onward.suffix`), so the return that closes it
finds what was put down when it was called.

One thing is not restored exactly.  A conditional on one line takes a body that leaves
the script at its place for one that did not jump, and then passes over the lines that
it rules out.  A return may lead to the very place where the script stands.  For a line
of the script this cannot be, since a line that returns is not the line that called.
But the command of an action is carried out wherever the script waits, and this may be
right behind the call, where another action's return has taken it
(`return_restores_iff`).
-/

namespace StreamScript

/-- The statement inside of all conditionals on one line. -/
def Statement.leaf : Statement → Statement
  | .single _ body => body.leaf
  | statement => statement

/-- Whether the line in front of a walk is one that some conditional on one line rules out. -/
def Walk.isRival (heads : List Head) (w : Walk) : Bool :=
  w.program.lines[w.next]?.any fun line => heads.any (·.rulesOut line)

namespace Script

variable {env env' : Env} {s t u caller : Script} {d n : Nat}

/-! ## Keeping what a subroutine restores -/

/-- Things happen one after another, in any surroundings, while more than `d` subroutines are open
all along. -/
def Onward (d : Nat) : Script → Script → Prop :=
  Relation.ReflTransGen fun s t => ∃ env n, Happens env s n t ∧ d < n

/-- **What is below the open subroutines is kept.** -/
theorem Onward.suffix {fs : List Gosub} (h : Onward d s t) (hsuffix : fs <:+ s.gosubs)
    (hle : fs.length ≤ d + 1) : fs <:+ t.gosubs := by
  induction h with
  | refl => exact hsuffix
  | tail _ hlast ih =>
    obtain ⟨env, n, hhappens, hlt⟩ := hlast
    exact hhappens.suffix ih (Nat.le_trans hle hlt)

theorem Onward.mono {e : Nat} (h : Onward d s t) (hle : e ≤ d) : Onward e s t := by
  refine Relation.ReflTransGen.mono ?_ s t h
  rintro u v ⟨env, n, hhappens, hlt⟩
  exact ⟨env, n, hhappens, Nat.lt_of_le_of_lt hle hlt⟩

theorem Onward.program (h : Onward d s t) : t.walk.program = s.walk.program := by
  induction h with
  | refl => rfl
  | tail _ hlast ih =>
    obtain ⟨env, n, hhappens, -⟩ := hlast
    exact hhappens.program.trans ih

/-! ## Calls -/

/-- The next line of a script calls a subroutine, which is open from then on.  The call is carried
out by the script `caller`, since it may stand in conditionals on one line. -/
structure LineCalls (env : Env) (s caller : Script) : Prop where
  exists_line : ∃ line statement heads label args, s.nextLine? = some line ∧
    line.statement? = some statement ∧
    core env statement (s.atStatement line statement) = ⟨heads, .gosub label args, caller⟩
  opened : (runLine env s.behindLine).2.gosubs.length = s.gosubs.length + 1

namespace LineCalls

theorem next_caller (h : LineCalls env s caller) : caller.walk.next = s.walk.next + 1 := by
  obtain ⟨line, statement, heads, label, args, -, -, hcore⟩ := h.exists_line
  have hnext := next_core env statement (s.atStatement line statement)
  rw [hcore] at hnext
  exact hnext.trans (walk_atStatement line statement s).1

/-- What a subroutine restores is put down in front of what the others restore. -/
theorem gosubs (h : LineCalls env s caller) :
    (runLine env s.behindLine).2.gosubs = caller.hereFrame :: s.gosubs := by
  have hopened := h.opened
  obtain ⟨line, statement, heads, label, args, hline, hstatement, hcore⟩ := h.exists_line
  have hcaller : caller.gosubs = s.gosubs := by
    have hsame := (sameButPlace_core env statement (s.atStatement line statement)).gosubs
    rw [hcore] at hsame
    exact hsame.trans (gosubs_atStatement line statement s)
  have hgosub : (runLine env s.behindLine).2.gosubs = (gosub env label args caller).2.gosubs := by
    rw [runLine_of_statement env hline hstatement, gosubs_execute, hcore]
  have hgoto : (goto env label (.text args) caller).2.gosubs.length ≤ s.gosubs.length := by
    rw [gosubs_goto, hcaller]
    split
    · rw [List.length_tail]
      exact Nat.sub_le _ _
    · exact Nat.le_refl _
  rw [hgosub, gosubs_gosub, hcaller] at hopened
  rw [hgosub, gosubs_gosub, hcaller]
  split
  · next hclear =>
    rw [if_pos hclear] at hopened
    cases hopened
  · next hclear =>
    rw [if_neg hclear] at hopened
    split
    · next hfull =>
      rw [if_pos hfull] at hopened
      omega
    · next hfull =>
      rw [if_neg hfull] at hopened
      split
      · next hnext =>
        rw [if_pos hnext, List.length_cons, gosubs_goto, hcaller] at hopened
        rw [gosubs_goto, hcaller]
        split
        · next hback =>
          -- a return leaves fewer open, unless none was
          rw [if_pos hback, List.length_tail] at hopened
          have hnone : s.gosubs = [] := List.eq_nil_of_length_eq_zero (by omega)
          rw [hnone]
          rfl
        · rfl
      · next hnext =>
        rw [if_neg hnext] at hopened
        omega

end LineCalls

/-! ## Returns -/

/-- Whether a statement that is really carried out is a return. -/
def Core.isReturn (env : Env) (c : Core) : Bool :=
  match c.statement with
  | .leave => true
  | .goto label _ => comesBack env label c.script
  | _ => false

theorem execute_of_isReturn {c : Core} (h : c.isReturn env = true) :
    execute env c.statement c.script = leave env c.script := by
  obtain ⟨heads, statement, script⟩ := c
  cases statement with
  | leave => rfl
  | goto label args => exact goto_of_comesBack h (.text args)
  | _ => cases h

/-- How a script comes to return from a subroutine, and what comes of it.  The list holds what
conditionals around the command of an action test. -/
inductive Return (env : Env) : Script → List Head → Flow × Script → Prop where
  /-- The next line returns. -/
  | line {s : Script} {line : Line} {statement : Statement} (hline : s.nextLine? = some line)
      (hstatement : line.statement? = some statement)
      (h : (core env statement (s.atStatement line statement)).isReturn env = true) :
      Return env s [] (runLine env s.behindLine)
  /-- The command of an action returns. -/
  | order {o : Order} {statement : Statement} (hstatement : o.statement? = some statement)
      (h : (core env statement (o.script.setVerbatim true)).isReturn env = true) :
      Return env o.script (core env statement (o.script.setVerbatim true)).heads (o.outcome env)
  /-- An entry that was matched returns. -/
  | entry {s : Script} (label : String) (caps : Captures) (h : comesBack env label s = true) :
      Return env s [] (goto env label (.groups caps) s)

/-- What a return that succeeds restores. -/
theorem leave_of_next {frame : Gosub} {outer : List Gosub} (hgosubs : s.gosubs = frame :: outer)
    (h : (leave env s).1 = .next) :
    (leave env s).2.walk = { s.walk with ifs := frame.ifs }.moveTo frame.next ∧
      (leave env s).2.scopes.labelVars = frame.labelVars := by
  have hresult := leaveResult env s
  generalize leave env s = r at h hresult ⊢
  cases hresult with
  | unopened | tripped => cases h
  | back hgosubs' =>
    obtain ⟨rfl, rfl⟩ := List.cons.inj (hgosubs'.symm.trans hgosubs)
    exact ⟨(sameStand_returned _ _).walk, congrArg Scopes.labelVars (scopes_debug _ .gosubs _)⟩

/-! ## Conditionals around a return -/

theorem isRival_nil (w : Walk) : w.isRival [] = false := by
  rw [Walk.isRival]
  cases w.program.lines[w.next]? <;> rfl

theorem next_skipRivals_iff (head : Head) (s : Script) :
    (s.skipRivals head).walk.next = s.walk.next ↔ s.walk.isRival [head] = false := by
  have hhead : (s.walk.program.lines.toList.drop s.walk.next).head? =
      s.walk.program.lines[s.walk.next]? := by
    rw [List.head?_drop, Array.getElem?_toList]
  rw [skipRivals_walk, Walk.skipWhile, Walk.isRival, ← hhead]
  cases s.walk.program.lines.toList.drop s.walk.next with
  | nil => simp
  | cons line rest => cases hrules : head.rulesOut line <;> simp [hrules]

/-- **When conditionals around a body take the script elsewhere**: if the body has left it at its
place, and the line there is one that some of them rule out. -/
theorem next_passRivals_iff (place : Nat) (heads : List Head) (s : Script) :
    (s.passRivals place heads).walk.next = s.walk.next ↔
      ¬ (s.walk.next = place ∧ s.walk.isRival heads = true) := by
  induction heads with
  | nil =>
    rw [isRival_nil]
    exact iff_of_true rfl fun hboth => nomatch hboth.2
  | cons head rest ih =>
    have hcons : s.passRivals place (head :: rest) =
        if (s.passRivals place rest).walk.next = place then
          (s.passRivals place rest).skipRivals head
        else s.passRivals place rest := rfl
    have hrivals : s.walk.isRival (head :: rest) =
        (s.walk.isRival [head] || s.walk.isRival rest) := by
      rw [Walk.isRival, Walk.isRival, Walk.isRival]
      cases s.walk.program.lines[s.walk.next]? <;> simp
    rw [hcons, hrivals]
    by_cases hstay : (s.passRivals place rest).walk.next = s.walk.next
    · -- none of the inner ones has moved the script
      have hsame : s.passRivals place rest = s := by
        rw [passRivals_eq, hstay]
      rw [hsame] at ih ⊢
      have hrest := ih.mp rfl
      split
      · next hplace =>
        have hnone : s.walk.isRival rest = false :=
          Bool.eq_false_iff.mpr fun hrival => hrest ⟨hplace, hrival⟩
        rw [next_skipRivals_iff, hnone, Bool.or_false]
        simp [hplace]
      · next hplace => exact iff_of_true rfl fun hboth => hplace hboth.1
    · obtain ⟨hplace, hrival⟩ := Classical.not_not.mp (mt ih.mpr hstay)
      have hmoved : (s.passRivals place rest).walk.next ≠ place :=
        fun hthere => hstay (hthere.trans hplace.symm)
      rw [if_neg hmoved]
      refine iff_of_false hstay fun hnot => hnot ⟨hplace, ?_⟩
      rw [hrival, Bool.or_true]

theorem core_leaf (env : Env) (statement : Statement) (s : Script) :
    (core env statement s).statement = statement.leaf ∨
      ∃ head body, (core env statement s).statement = .single head body := by
  induction statement generalizing s with
  | single head body ih =>
    obtain ⟨hcore, -⟩ | ⟨idx, t, -, -, hcore⟩ := core_single env head body s
    · rw [hcore]
      exact .inr ⟨head, body, rfl⟩
    · rw [hcore]
      exact ih t
  | _ => exact .inl rfl

/-- A line that calls is not one that returns. -/
theorem LineCalls.not_isReturn (h : LineCalls env s caller) {line : Line} {statement : Statement}
    (hline : s.walk.program.lines[s.walk.next]? = some line)
    (hstatement : line.statement? = some statement) (t : Script) :
    (core env' statement t).isReturn env' = false := by
  obtain ⟨line', statement', heads, label, args, hline', hstatement', hcore⟩ := h.exists_line
  rw [getElem?_of_nextLine? hline'] at hline
  obtain rfl := Option.some.inj hline
  obtain rfl := Option.some.inj (hstatement'.symm.trans hstatement)
  have hleaf : statement'.leaf = .gosub label args := by
    have hcalls := core_leaf env statement' (s.atStatement line' statement')
    rw [hcore] at hcalls
    obtain hleaf | ⟨head, body, hsingle⟩ := hcalls
    · exact hleaf.symm
    · cases hsingle
  rw [Core.isReturn]
  obtain hsame | ⟨head, body, hsingle⟩ := core_leaf env' statement' t
  · rw [hsame, hleaf]
  · rw [hsingle]

/-- What a return inside of conditionals restores, and where it leads. -/
theorem passRivals_of_leave {c : Core} {frame : Gosub} {outer : List Gosub}
    (hgosubs : c.script.gosubs = frame :: outer) (h : (leave env c.script).1 = .next)
    (hframe : frame.next ≤ c.script.walk.program.lines.size) (place : Nat) :
    let v := (leave env c.script).2.passRivals place c.heads
    v.walk.ifs = frame.ifs ∧ v.scopes.labelVars = frame.labelVars ∧
      (v.walk.next = frame.next ↔ ¬ (frame.next = place ∧
        ({ c.script.walk with next := frame.next } : Walk).isRival c.heads = true)) := by
  obtain ⟨hwalk, hvars⟩ := leave_of_next hgosubs h
  have hnext : (leave env c.script).2.walk.next = frame.next := by
    rw [hwalk]
    exact Nat.min_eq_left hframe
  have hrival : (leave env c.script).2.walk.isRival c.heads =
      ({ c.script.walk with next := frame.next } : Walk).isRival c.heads := by
    rw [Walk.isRival, hnext, hwalk]
    rfl
  have hiff := next_passRivals_iff place c.heads (leave env c.script).2
  rw [hnext, hrival] at hiff
  intro v
  refine ⟨?_, ?_, hiff⟩
  · rw [show v = _ from passRivals_eq ..]
    rw [hwalk]
    rfl
  · rw [show v = _ from passRivals_eq ..]
    exact hvars

/-- **Where a subroutine returns to.**  Let a line of a script call a subroutine, and let anything
happen while that subroutine is open.  Then let the script return from it, by a line, by the command
of an action or by an entry that was matched, without being taken for one that runs in circles.  The
open conditionals and the arguments of the label are those that were there when the subroutine was
called.  And the script goes on behind the line that called, unless the return is the body of
conditionals on one line in the command of an action, the script stands behind the line that called
when it returns, and the line in front of it is one that these conditionals rule out. -/
theorem return_restores_iff (hcall : LineCalls env s caller)
    (honward : Onward s.gosubs.length (runLine env s.behindLine).2 u)
    (hdepth : u.gosubs.length = s.gosubs.length + 1) {heads : List Head} {r : Flow × Script}
    (hreturn : Return env' u heads r) (hnext : r.1 = .next) :
    r.2.walk.ifs = caller.walk.ifs ∧ r.2.scopes.labelVars = caller.scopes.labelVars ∧
      (r.2.walk.next = s.walk.next + 1 ↔
        ¬ (u.walk.next = s.walk.next + 1 ∧ u.walk.isRival heads = true)) := by
  obtain ⟨line, -, -, -, -, hline, -, -⟩ := hcall.exists_line
  have hprogram : u.walk.program = s.walk.program :=
    honward.program.trans (program_runLine env hline)
  -- the frame put down by the call is the innermost one again
  have hgosubs : u.gosubs = caller.hereFrame :: s.gosubs := by
    have hsuffix : caller.hereFrame :: s.gosubs <:+ u.gosubs :=
      honward.suffix ⟨[], hcall.gosubs.symm⟩ (Nat.le_of_eq List.length_cons)
    exact (hsuffix.eq_of_length (by rw [hdepth, List.length_cons])).symm
  have hplace : caller.hereFrame.next = s.walk.next + 1 := hcall.next_caller
  have hframe : caller.hereFrame.next ≤ u.walk.program.lines.size := by
    rw [hplace, hprogram]
    exact next_lt_size hline
  cases hreturn with
  | @line _ line' statement hline' hstatement hback =>
    generalize hc : core env' statement (u.atStatement line' statement) = c at hback
    have hsame := sameButPlace_core env' statement (u.atStatement line' statement)
    rw [hc] at hsame
    rw [runLine_of_statement env' hline' hstatement, execute_core, hc, execute_of_isReturn hback,
      (walk_atStatement line' statement u).1] at hnext ⊢
    have hscript : c.script.gosubs = caller.hereFrame :: s.gosubs :=
      (hsame.gosubs.trans (gosubs_atStatement line' statement u)).trans hgosubs
    have hsize : caller.hereFrame.next ≤ c.script.walk.program.lines.size := by
      rw [hsame.program, (walk_atStatement line' statement u).2]
      exact hframe
    obtain ⟨hifs, hvars, hiff⟩ := passRivals_of_leave hscript hnext hsize (u.walk.next + 1)
    refine ⟨hifs, hvars, iff_of_true (hplace ▸ hiff.mpr ?_) ?_⟩
    · rintro ⟨hthere, -⟩
      -- the script would return by the line that called
      have hhere : u.walk.next = s.walk.next := by omega
      have hlines := getElem?_of_nextLine? hline'
      rw [hprogram, hhere] at hlines
      rw [← hc, hcall.not_isReturn hlines hstatement] at hback
      cases hback
    · rw [isRival_nil]
      exact fun hboth => nomatch hboth.2
  | @order o statement hstatement hback =>
    generalize hc : core env' statement (o.script.setVerbatim true) = c at hback ⊢
    have hsame := sameButPlace_core env' statement (o.script.setVerbatim true)
    rw [hc] at hsame
    rw [Order.outcome_of_some env' hstatement, execute_core, hc, execute_of_isReturn hback]
      at hnext ⊢
    have hscript : c.script.gosubs = caller.hereFrame :: s.gosubs := hsame.gosubs.trans hgosubs
    have hsize : caller.hereFrame.next ≤ c.script.walk.program.lines.size := by
      rw [hsame.program]
      exact hframe
    obtain ⟨hifs, hvars, hiff⟩ := passRivals_of_leave hscript hnext hsize o.script.walk.next
    refine ⟨hifs, hvars, ?_⟩
    rw [hplace] at hiff
    refine hiff.trans (not_congr ?_)
    have hrival (hthere : o.script.walk.next = s.walk.next + 1) :
        ({ c.script.walk with next := s.walk.next + 1 } : Walk).isRival c.heads =
          o.script.walk.isRival c.heads := by
      rw [Walk.isRival, Walk.isRival, ← hthere, hsame.program]
      rfl
    constructor
    · rintro ⟨hthere, hrules⟩
      exact ⟨hthere.symm, (hrival hthere.symm).symm.trans hrules⟩
    · rintro ⟨hthere, hrules⟩
      exact ⟨hthere.symm, (hrival hthere).trans hrules⟩
  | entry label caps hback =>
    rw [goto_of_comesBack hback] at hnext ⊢
    obtain ⟨hifs, hvars, hiff⟩ :=
      passRivals_of_leave (c := ⟨[], .leave, u⟩) hgosubs hnext hframe u.walk.next
    refine ⟨hifs, hvars, iff_of_true (hplace ▸ hiff.mpr ?_) ?_⟩
    · rw [isRival_nil]
      exact fun hboth => nomatch hboth.2
    · rw [isRival_nil]
      exact fun hboth => nomatch hboth.2

/-! ### A subroutine that calls itself -/

/-- What a call without variables and arguments does. -/
theorem gosub_of_isPlain {label : String} {target : Label} (hlabel : isPlain label = true)
    (hclear : Text.sameName label "clear" = false)
    (hopen : s.gosubs.length < env.settings.maxGosubs)
    (htarget : s.walk.program.label? (String.ofList (Text.lowercase (Text.trim label.toList))) =
      some target) (hcount : (countJump env s).1 = false) :
    let name := String.ofList (Text.lowercase (Text.trim label.toList))
    let t := (countJump env s).2.arrived env name target (.groups [])
    gosub env label "" s = (.next, { t with gosubs := s.hereFrame :: t.gosubs }) := by
  intro name t
  have hbind (u : Script) : bindLabelArgs env (.text "") u = bindLabelArgs env (.groups []) u := by
    rw [bindLabelArgs, substitute_of_isPlain u env (by decide)]
    rfl
  have hname : s.labelName env label = name := by rw [labelName, substitute_of_isPlain s env hlabel]
  have hgoto : goto env label (.text "") s = (.next, t) := by
    rw [goto_of_label (by rw [hname]; exact htarget) hcount, hname, arrived, hbind, ← arrived]
    exact congrArg (fun r => (Flow.next, r.2.arrived env name target (.groups [])))
      (countJump_of_passed hcount).symm
  exact gosub_of_goto hclear hopen hgoto

/-- A run that a line begins goes on behind the line. -/
theorem run_eq_of_again (hw : 0 < env.settings.loopWindow) (h : step env s = .again t) :
    run env s = run env t := by
  obtain ⟨met, hreturns, -⟩ := run_returns env hw t
  obtain ⟨met', hreturns', -⟩ := run_returns env hw s
  exact (hreturns'.unique (.again h hreturns)).2

/-- Whether more than `d` subroutines are open throughout a run of so many lines at most, which none
of them ends. -/
def keepsOpen (env : Env) (d : Nat) : Nat → Script → Bool
  | 0, _ => true
  | n + 1, s =>
      s.nextLine?.any fun line =>
        decide (d < leastOpenOn env line s) &&
          match runLine env s.behindLine with
          | (.next, t) => keepsOpen env d n t
          | (.wait, t) => decide (d < t.gosubs.length)
          | _ => false

theorem onward_steps (h : keepsOpen env d n s = true) : Onward d s (steps env n s) := by
  induction n generalizing s with
  | zero => exact .refl
  | succ n ih =>
    obtain ⟨line, hline, hkeeps⟩ := (Option.any_eq_true ..).mp h
    rw [Bool.and_eq_true, decide_eq_true_eq] at hkeeps
    obtain ⟨hopen, hrest⟩ := hkeeps
    have hfirst : Onward d s (runLine env s.behindLine).2 :=
      Relation.ReflTransGen.single ⟨env, _, .line hline, hopen⟩
    have hphase : (runLine env s.behindLine).2.phase = .running :=
      (phase_runLine env s.behindLine).trans (phase_of_nextLine? (s := s) hline)
    rw [steps, step_of_nextLine? env hline]
    generalize runLine env s.behindLine = r at hrest hfirst hphase
    obtain ⟨flow, t⟩ := r
    cases flow with
    | next => exact hfirst.trans (ih hrest)
    | wait => exact hfirst.tail ⟨env, _, .calm hphase, of_decide_eq_true hrest⟩
    | exit | skipBlock | skipChain => cases hrest

/-- The wait of a live script is over. -/
theorem Onward.clearWaits (h : Onward d s t) (hphase : t.phase = .running)
    (hopen : d < t.clearWaits.gosubs.length) : Onward d s t.clearWaits :=
  h.tail ⟨{}, _, .clearWaits (ne_stopped_of_running hphase), hopen⟩

/-- An action of a live script is set off. -/
theorem Onward.setOff (h : Onward d s t) (hphase : t.phase = .running) (action : Action)
    (caps : Captures) (hopen : d < (t.setOff action caps).gosubs.length) :
    Onward d s (t.setOff action caps) := by
  have hstand := sameStand_setOff action caps t
  rw [hstand.gosubs] at hopen
  exact h.tail ⟨{}, _, .note (ne_stopped_of_running hphase) hstand (speaks_setOff action caps t),
    hopen⟩

/-- A program whose subroutine calls itself whenever the player comes into another room, and that
returns twice when it is told to stop. -/
def nesting : Program where
  name := "nesting"
  lines := (["action return;if_0 then return when Stop", "sub:", "nextroom", "gosub sub",
    "if_0 then echo here", "echo end"].mapIdx fun i text => .ofText "nesting" (i + 1) text).toArray

/-- The line of `nesting` that calls. -/
def nestingLine : Line :=
  .ofText "nesting" 4 "gosub sub"

/-- The script of `nesting` about to carry out the call. -/
def nestingCaller (s : Script) : Script :=
  s.atStatement nestingLine (.gosub "sub" "")

/-- The script of `nesting` behind the call. -/
def nestingCalled (s : Script) : Script :=
  let t := (countJump {} (nestingCaller s)).2.arrived {} "sub" ⟨1, "nesting"⟩ (.groups [])
  { t with gosubs := (nestingCaller s).hereFrame :: t.gosubs }

/-- The script of `nesting` in front of its call for the first time. -/
def nestingFirst : Script :=
  (start {} [] (ofProgram nesting {})).clearWaits

/-- The script of `nesting` in front of its call for the second time. -/
def nestingSecond : Script :=
  (run {} (nestingCalled nestingFirst)).clearWaits

/-- The script of `nesting` where it waits with two subroutines open. -/
def nester : Script :=
  run {} (nestingCalled nestingSecond)

/-- The first command that `nesting` gets when it is told to stop. -/
def nestingReturn : Order :=
  ⟨"return", nester.setOff ⟨"", "return;if_0 then return", "Stop", true⟩ ["Stop"]⟩

/-- The second one. -/
def nestingTest : Order :=
  ⟨"if_0 then return", (nestingReturn.outcome {}).2⟩

theorem gosubs_arrived (env : Env) (name : String) (target : Label) (args : LabelArgs)
    (s : Script) : (s.arrived env name target args).gosubs = s.gosubs :=
  (sameStand_arrived env name target args s).gosubs

theorem comesBack_of_isPlain {label : String} (h : isPlain label = true) (env : Env) (s : Script) :
    comesBack env label s =
      let name := String.ofList (Text.lowercase (Text.trim label.toList))
      (s.walk.program.label? name).isNone && name == "return" := by
  rw [comesBack, substitute_of_isPlain s env h]

/-- Whether a running script waits for another room. -/
def waitsForRoom (s : Script) : Bool :=
  match s.phase, s.wait? with
  | .running, some .roomChange => true
  | _, _ => false

theorem waitsForRoom_iff :
    s.waitsForRoom = true ↔ s.phase = .running ∧ s.wait? = some .roomChange := by
  unfold waitsForRoom
  split
  · next hphase hwait => exact iff_of_true rfl ⟨hphase, hwait⟩
  · next hnot => exact iff_of_false Bool.false_ne_true fun hboth => hnot hboth.1 hboth.2

theorem onRoomChange_of_waitsForRoom (env : Env) (h : s.waitsForRoom = true) :
    s.onRoomChange env = run env s.clearWaits := by
  obtain ⟨hphase, hwait⟩ := waitsForRoom_iff.mp h
  rw [onRoomChange, if_neg (not_not_intro hphase), hwait]
  rfl

/-- What the texts of `nesting` are read as. -/
structure NestingTexts : Prop where
  call : nestingLine.statement? = some (.gosub "sub" "")
  label : nesting.label? (String.ofList (Text.lowercase (Text.trim "sub".toList))) =
    some ⟨1, "nesting"⟩
  notClear : Text.sameName "sub" "clear" = false
  found : ({} : Env).matcher.regex "Stop" "Stop" = some ["Stop"]
  commands : Action.splitCommands "return;if_0 then return" = ["return", "if_0 then return"]
  leaves : nestingReturn.statement? = some .leave
  tests : nestingTest.statement? = some (.single (.ifArgs 0) .leave)

theorem nesting_texts : NestingTexts := by
  constructor <;> decide +kernel

/-- How the script of `nesting` fares.  It waits in front of its first and of its second call, and
then with two subroutines open; one command closes the inner one, and the other the outer one. -/
structure NestingCourse : Prop where
  firstWaits : (start {} [] (ofProgram nesting {})).waitsForRoom = true
  first : nestingFirst.walk.next = 3 ∧ nestingFirst.gosubs.length = 0 ∧
    (countJump {} (nestingCaller nestingFirst)).1 = false
  firstKeeps : keepsOpen {} 0 (stepBound {} (nestingCalled nestingFirst))
    (nestingCalled nestingFirst) = true
  secondWaits : (run {} (nestingCalled nestingFirst)).waitsForRoom = true
  second : nestingSecond.walk.next = 3 ∧ nestingSecond.gosubs.length = 1 ∧
    (countJump {} (nestingCaller nestingSecond)).1 = false
  secondKeeps : keepsOpen {} 1 (stepBound {} (nestingCalled nestingSecond))
    (nestingCalled nestingSecond) = true
  waits : nester.waitsForRoom = true
  actions : nester.actions.filter (·.enabled) = [⟨"", "return;if_0 then return", "Stop", true⟩]
  opened : nestingReturn.script.gosubs.length = 2
  returned : (nestingReturn.outcome {}).1 = .next ∧ nestingReturn.reaction {} = .stayed
  held : (core {} (.single (.ifArgs 0) .leave) (nestingTest.script.setVerbatim true)).heads =
      [.ifArgs 0] ∧
    (core {} (.single (.ifArgs 0) .leave) (nestingTest.script.setVerbatim true)).isReturn {} = true
  closed : nestingTest.script.gosubs.length = 1 ∧ nestingTest.reaction {} = .stayed ∧
    (nestingTest.outcome {}).2.isSatisfiedBy {} "Stop" = false
  passed : (nestingTest.outcome {}).1 = .next ∧ nestingFirst.walk.next = 3 ∧
    (nestingTest.outcome {}).2.walk.next = 5 ∧
    (linesFrom {} (nestingTest.outcome {}).2.clearWaits).map (·.text) = ["echo end"]

theorem nesting_course : NestingCourse := by
  constructor <;> decide +kernel

/-- The script of `nesting` in front of its call, which is not one too many. -/
structure NestingReady (s : Script) : Prop where
  phase : s.phase = .running
  program : s.walk.program = nesting
  next : s.walk.next = 3
  opened : s.gosubs.length < 100
  counted : (countJump {} (nestingCaller s)).1 = false

namespace NestingReady

theorem nextLine? (h : NestingReady s) : s.nextLine? = some nestingLine := by
  rw [Script.nextLine?, if_pos h.phase, h.program, h.next]
  rfl

theorem program_caller (h : NestingReady s) : (nestingCaller s).walk.program = nesting :=
  (walk_atStatement nestingLine _ s).2.trans h.program

theorem gosubs_caller (s : Script) : (nestingCaller s).gosubs = s.gosubs :=
  gosubs_atStatement nestingLine _ s

theorem runLine (h : NestingReady s) :
    Script.runLine {} s.behindLine = (.next, nestingCalled s) := by
  rw [runLine_of_statement {} h.nextLine? nesting_texts.call]
  refine gosub_of_isPlain (by decide) nesting_texts.notClear ?_ ?_ h.counted
  · change (nestingCaller s).gosubs.length < 100
    rw [gosubs_caller]
    exact h.opened
  · change (nestingCaller s).walk.program.label? _ = _
    rw [h.program_caller]
    exact nesting_texts.label

theorem run_eq (h : NestingReady s) : run {} s = run {} (nestingCalled s) := by
  refine run_eq_of_again (by decide) ?_
  rw [step_of_nextLine? {} h.nextLine?, h.runLine]
  rfl

theorem lineCalls (h : NestingReady s) : LineCalls {} s (nestingCaller s) := by
  refine ⟨⟨nestingLine, _, [], "sub", "", h.nextLine?, nesting_texts.call, rfl⟩, ?_⟩
  rw [h.runLine, nestingCalled]
  change (Script.arrived ..).gosubs.length + 1 = s.gosubs.length + 1
  rw [gosubs_arrived, gosubs_countJump, gosubs_caller]

/-- All that were open stay open while another subroutine is called. -/
theorem leastOpenOn (h : NestingReady s) :
    Script.leastOpenOn {} nestingLine s = s.gosubs.length := by
  have hback : Script.comesBack {} "sub" (nestingCaller s) = false := by
    rw [comesBack_of_isPlain (by decide), h.program_caller]
    dsimp only
    rw [nesting_texts.label]
    rfl
  rw [Script.leastOpenOn, nesting_texts.call]
  change (if Text.sameName "sub" "clear" then 0
    else if Script.comesBack {} "sub" (nestingCaller s) then (nestingCaller s).gosubs.length - 1
    else (nestingCaller s).gosubs.length) = s.gosubs.length
  rw [nesting_texts.notClear, hback, gosubs_caller, if_neg Bool.false_ne_true,
    if_neg Bool.false_ne_true]

theorem program_called (h : NestingReady s) : (nestingCalled s).walk.program = nesting := by
  have hprogram := program_runLine {} h.nextLine?
  rw [h.runLine] at hprogram
  exact hprogram.trans h.program

end NestingReady

/-- The player comes into another room while the script of `nesting` waits in front of its call. -/
theorem nestingReady_clearWaits (hwaits : s.waitsForRoom = true)
    (hprogram : s.walk.program = nesting) (hnext : s.clearWaits.walk.next = 3)
    (hopened : s.clearWaits.gosubs.length < 100)
    (hcounted : (countJump {} (nestingCaller s.clearWaits)).1 = false) :
    NestingReady s.clearWaits :=
  ⟨(waitsForRoom_iff.mp hwaits).1, hprogram, hnext, hopened, hcounted⟩

theorem Order.leastOpen_of_leaves (env : Env) {order : Order} (h : order.statement? = some .leave) :
    order.leastOpen env = order.script.gosubs.length - 1 := by
  rw [Order.leastOpen, h]
  rfl

theorem script_nestingReturn : nestingReturn.script =
    nester.setOff ⟨"", "return;if_0 then return", "Stop", true⟩ ["Stop"] := by
  rw [nestingReturn]

theorem nestingFirst_ready : NestingReady nestingFirst := by
  obtain ⟨hnext, hopen, hcounted⟩ := nesting_course.first
  exact nestingReady_clearWaits nesting_course.firstWaits
    (happenings_apply {} (.start []) (ofProgram nesting {})).program hnext
    (Nat.lt_of_le_of_lt (Nat.le_of_eq hopen) (by decide)) hcounted

theorem nestingSecond_ready : NestingReady nestingSecond := by
  obtain ⟨hnext, hopen, hcounted⟩ := nesting_course.second
  exact nestingReady_clearWaits nesting_course.secondWaits
    ((happenings_run {} (nestingCalled nestingFirst)).program.trans
      nestingFirst_ready.program_called) hnext
    (Nat.lt_of_le_of_lt (Nat.le_of_eq hopen) (by decide)) hcounted

/-- Behind the second call two subroutines are open, until the script is told to stop. -/
theorem onward_inner :
    Onward 1 (runLine {} nestingSecond.behindLine).2 nestingReturn.script := by
  have hrun : Onward 1 (nestingCalled nestingSecond) nester :=
    onward_steps nesting_course.secondKeeps
  have hopened := nesting_course.opened
  rw [script_nestingReturn] at hopened
  rw [nestingSecond_ready.runLine, script_nestingReturn]
  exact hrun.setOff (waitsForRoom_iff.mp nesting_course.waits).1 _ _ (hopened ▸ Nat.one_lt_two)

/-- Behind the first call one subroutine is open, until the script is told to return twice and has
returned once. -/
theorem onward_outer :
    Onward 0 (runLine {} nestingFirst.behindLine).2 nestingTest.script := by
  have hrun : Onward 0 (nestingCalled nestingFirst) (run {} (nestingCalled nestingFirst)) :=
    onward_steps nesting_course.firstKeeps
  have hopen : 0 < nestingSecond.gosubs.length := by
    rw [nesting_course.second.2.1]
    decide
  have hsecond : Onward 0 (nestingCalled nestingFirst) nestingSecond :=
    hrun.clearWaits (waitsForRoom_iff.mp nesting_course.secondWaits).1 hopen
  have hcalled := hsecond.tail ⟨{}, _, .line nestingSecond_ready.nextLine?,
    nestingSecond_ready.leastOpenOn ▸ hopen⟩
  have hphase : nestingReturn.script.phase = .running := by
    rw [script_nestingReturn, (sameStand_setOff _ _ nester).phase]
    exact (waitsForRoom_iff.mp nesting_course.waits).1
  have hleast : nestingReturn.leastOpen {} = 1 := by
    rw [Order.leastOpen_of_leaves {} nesting_texts.leaves, nesting_course.opened]
  rw [nestingFirst_ready.runLine]
  exact (hcalled.trans (onward_inner.mono (Nat.zero_le 1))).tail
    ⟨{}, _, .order nestingReturn hphase, hleast ▸ Nat.one_pos⟩

theorem isReturn_nestingReturn : Return {} nestingReturn.script [] (nestingReturn.outcome {}) :=
  .order nesting_texts.leaves rfl

theorem isReturn_nestingTest :
    Return {} nestingTest.script [.ifArgs 0] (nestingTest.outcome {}) := by
  obtain ⟨hheads, hback⟩ := nesting_course.held
  rw [← hheads]
  exact .order nesting_texts.tests hback

/-- The inner subroutine of `nesting` returns to the line behind its call. -/
theorem nesting_inner_returns :
    LineCalls {} nestingSecond (nestingCaller nestingSecond) ∧
      Onward nestingSecond.gosubs.length (runLine {} nestingSecond.behindLine).2
        nestingReturn.script ∧
      nestingReturn.script.gosubs.length = nestingSecond.gosubs.length + 1 ∧
      Return {} nestingReturn.script [] (nestingReturn.outcome {}) ∧
      (nestingReturn.outcome {}).1 = .next ∧
      (nestingReturn.outcome {}).2.walk.next = nestingSecond.walk.next + 1 := by
  have hcall := nestingSecond_ready.lineCalls
  have hone := nesting_course.second.2.1
  have honward : Onward nestingSecond.gosubs.length (runLine {} nestingSecond.behindLine).2
      nestingReturn.script := by
    rw [hone]
    exact onward_inner
  have hdepth : nestingReturn.script.gosubs.length = nestingSecond.gosubs.length + 1 := by
    rw [nesting_course.opened, hone]
  have hnext := nesting_course.returned.1
  have hiff := (return_restores_iff hcall honward hdepth isReturn_nestingReturn hnext).2.2
  refine ⟨hcall, honward, hdepth, isReturn_nestingReturn, hnext, hiff.mpr ?_⟩
  rw [isRival_nil]
  exact fun hboth => nomatch hboth.2

theorem react_nester : nester.react {} "Stop" = (.stayed, (nestingTest.outcome {}).2) := by
  have hfirst : order {} "return" nestingReturn.script = nestingReturn := by
    rw [order_of_isPlain (by decide), nestingReturn]
  have hsecond : order {} "if_0 then return" nestingTest.script = nestingTest := by
    rw [order_of_isPlain (by decide), nestingTest]
  have hreact := (react_of_one_action nesting_course.actions (by decide) nesting_texts.found).2
  rw [hreact, nesting_texts.commands, ← script_nestingReturn]
  calc runCommands {} false ["return", "if_0 then return"] nestingReturn.script
      = runCommands {} false ["if_0 then return"] nestingTest.script := by
        rw [runCommands_cons_of_stayed (by rw [hfirst]; exact nesting_course.returned.2), hfirst]
        rfl
    _ = (.stayed, (nestingTest.outcome {}).2) := by
        rw [runCommands_cons_of_stayed (by rw [hsecond]; exact nesting_course.closed.2.1), hsecond]
        rfl

/-- The calls that bring the script of `nesting` to where two subroutines are open, and tell it to
stop. -/
def nestingCalls : List Moment :=
  [⟨{}, .start [], ofProgram nesting {}⟩,
    ⟨{}, .roomChange, start {} [] (ofProgram nesting {})⟩,
    ⟨{}, .roomChange, run {} (nestingCalled nestingFirst)⟩, ⟨{}, .line "Stop", nester⟩]

theorem calls_nesting :
    Calls (ofProgram nesting {}) nestingCalls (nestingTest.outcome {}).2 := by
  have hw : 0 < ({} : Env).settings.loopWindow := by decide
  have hfirst : onRoomChange {} (start {} [] (ofProgram nesting {})) =
      run {} (nestingCalled nestingFirst) := by
    rw [onRoomChange_of_waitsForRoom {} nesting_course.firstWaits]
    exact nestingFirst_ready.run_eq
  have hsecond : onRoomChange {} (run {} (nestingCalled nestingFirst)) = nester := by
    rw [onRoomChange_of_waitsForRoom {} nesting_course.secondWaits]
    exact nestingSecond_ready.run_eq
  have hstop : onLine {} "Stop" nester = (nestingTest.outcome {}).2 :=
    (onLine_of_stayed (waitsForRoom_iff.mp nesting_course.waits).1 react_nester
      nesting_course.closed.2.2).2
  refine .cons (Call.returns_of_window hw _ _) (.cons (Call.returns_of_window hw _ _) ?_)
  rw [Call.apply, Call.apply, hfirst]
  refine .cons (Call.returns_of_window hw _ _) ?_
  rw [Call.apply, hsecond]
  refine .cons (Call.returns_of_window hw _ _) ?_
  rw [Call.apply, hstop]
  exact .nil _

/-- **The outer subroutine of `nesting` does not return to the line behind its call**: the script
passes over that line, and would run it if it had returned without a conditional. -/
theorem nesting_outer_returns_elsewhere :
    Calls (ofProgram nesting {}) nestingCalls (nestingTest.outcome {}).2 ∧
      LineCalls {} nestingFirst (nestingCaller nestingFirst) ∧
      nestingFirst.gosubs.length = 0 ∧
      Onward 0 (runLine {} nestingFirst.behindLine).2 nestingTest.script ∧
      nestingTest.script.gosubs.length = 1 ∧
      Return {} nestingTest.script [.ifArgs 0] (nestingTest.outcome {}) ∧
      (nestingTest.outcome {}).1 = .next ∧
      nestingFirst.walk.next = 3 ∧ (nestingTest.outcome {}).2.walk.next = 5 ∧
      (linesFrom {} (nestingTest.outcome {}).2.clearWaits).map (·.text) = ["echo end"] :=
  ⟨calls_nesting, nestingFirst_ready.lineCalls, nesting_course.first.2.1, onward_outer,
    nesting_course.closed.1, isReturn_nestingTest, nesting_course.passed⟩

end Script

end StreamScript
