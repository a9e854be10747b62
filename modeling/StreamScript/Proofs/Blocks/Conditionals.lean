import StreamScript.Proofs.Blocks.Following
import StreamScript.Proofs.NestedIndices

/-!
# Conditionals mean what they say

A script whose blocks close, and in which everything between the conditionals is
carried out at once, runs off its end.  On the way it carries out the statements
that `Body.perform` lists, and no others (`exists_run_body`).  Where every part of a
chain stands on a line of its own this is what one expects: in each chain the
conditions are tried in order, the body of the first part whose condition holds is
carried out, and the script goes on behind the chain (`start_view_eq_eval`).

Such a script makes no jumps, so every line takes it further on, and it runs no
more lines than there are.  The one thing that keeps it from its end is a line in which
variables never stop being put into a text, as when an argument is an item of a list
whose number is that argument again (`circular_args_hang`).
-/

namespace StreamScript

open Layout

namespace Script

variable {env : Env} {p : Program} {s t : Script}

/-! ## The beginning and the end of a run -/

/-- What a script that is started with some arguments has to show. -/
def firstView (name : String) (args : List String) : View :=
  ⟨(Scopes.ofName name).setArgs args, []⟩

theorem at_begun (p : Program) (settings : Settings) (args : List String) :
    At p 0 [] (firstView p.name args) ((ofProgram p settings).begun args) :=
  ⟨rfl, rfl, view_status _ _⟩

theorem phase_cancel (h : s.phase = .running) : s.cancel.phase = .stopped := by
  rw [cancel, isStopped, h]
  rfl

theorem view_cancel (h : s.phase = .running) : s.cancel.view = s.view := by
  rw [cancel, isStopped, h]
  exact view_status _ _

theorem isElseAt_size (p : Program) : p.isElseAt p.lines.size = false := by
  rw [Program.isElseAt, Program.statement?, Array.getElem?_eq_none (Nat.le_refl _)]
  rfl

/-- Behind the last line there is nothing left to do. -/
theorem At.nextLine?_eq_none {fs : List Frame} {v : View} (h : At p p.lines.size fs v s) :
    s.nextLine? = none := by
  rw [h.nextLine?, Array.getElem?_eq_none (Nat.le_refl _)]

theorem At.step_eq_done {fs : List Frame} {v : View} (h : At p p.lines.size fs v s) (env : Env) :
    step env s = .done s.cancel := by
  refine step_of_advance?_eq_none env h.phase ?_
  rw [h.walk, Walk.advance?]
  exact if_neg (Nat.lt_irrefl _)

/-! ## Starting a script -/

/-- What there is to show when a call has met with its fate. -/
def Fate.view : Fate → View
  | .returns t => t.view
  | .hangs u => u.view

/-- What comes of starting a script.  When the call returns, it returns what `start` computes. -/
structure Starts (env : Env) (args : List String) (s : Script) (met : List Script) (fate : Fate) :
    Prop where
  comes : Comes env (s.begun args) met fate
  start_eq : ∀ t, fate = .returns t → start env args s = t

/-- What comes of starting a script that leaves its last line behind, unless it hangs. -/
structure RunsOff (env : Env) (args : List String) (s : Script) (met : List Script) (fate : Fate) :
    Prop extends Starts env args s met fate where
  off_end : ∀ t, fate = .returns t → ∃ front u, met = front ++ [u] ∧ u.phase = .running ∧
    u.walk.next = s.walk.program.lines.size ∧ t = u.cancel

/-- A run through a line that never ends hangs in the first of them. -/
theorem Runs.exists_hangs {met : List Script} {v : View} (h : Runs env s met t)
    (hstuck : met.findSome? (stuck? env) = some v) :
    ∃ met' u, Comes env s met' (.hangs u) ∧ u.view = v := by
  induction h with
  | nil => cases hstuck
  | @cons s _ _ _ hstep _ ih =>
    rw [List.findSome?_cons, stuck?] at hstuck
    cases hends : s.lineEnds env with
    | true =>
      rw [hends] at hstuck
      obtain ⟨met', u, hcomes, hview⟩ := ih hstuck
      exact ⟨_, u, .again hends hstep hcomes, hview⟩
    | false =>
      rw [hends] at hstuck
      exact ⟨_, s, .hangs hends, Option.some.inj hstuck⟩

theorem lineEnds_of_findSome? {met : List Script} (h : met.findSome? (stuck? env) = none) :
    ∀ u ∈ met, u.lineEnds env = true := by
  intro u hu
  have hstuck := List.findSome?_eq_none_iff.mp h u hu
  rw [stuck?] at hstuck
  cases hends : u.lineEnds env with
  | true => rfl
  | false => rw [hends] at hstuck; cases hstuck

/-! ## Runs through a body -/

/-- **A script whose blocks close runs off its end, and carries out what `Body.perform` says.** -/
theorem exists_run_body (b : Body) (hlines : p.lines.toList = b.lines) (hdirect : b.isDirect = true)
    (env : Env) (settings : Settings) (args : List String) :
    ∃ met t fs, Runs env ((ofProgram p settings).begun args) met t ∧
      At p p.lines.size fs (b.perform env { view := firstView p.name args }).view t ∧
      start env args (ofProgram p settings) = t.cancel ∧
      Records env { view := firstView p.name args } met
        (b.perform env { view := firstView p.name args }) := by
  have hsize : b.lines.length = p.lines.size := by rw [← hlines, Array.length_toList]
  have hfrom : p.From 0 (b.lines ++ []) := by
    rw [Program.From, hlines, List.append_nil, List.drop_zero]
  have hend : p.isElseAt (0 + b.lines.length) = false := by
    rw [Nat.zero_add, hsize]
    exact isElseAt_size p
  have hcalm : p.Calm 0 [] := (Program.Base.nil p).calm
  obtain ⟨q, fs, harrived, hgoes⟩ := goes_body env b hdirect
    { view := firstView p.name args } hfrom (.of_not_else hend) ⟨.inl rfl, hcalm⟩
  obtain ⟨rfl, -⟩ := harrived.calm hend
  obtain ⟨met, t, hruns, ht, hrecords, hlen⟩ := hgoes _ (at_begun p settings args)
  rw [Nat.zero_add, hsize] at ht hlen
  have hreturns := hruns.returns (.done (ht.step_eq_done env))
  have hrun : run env ((ofProgram p settings).begun args) = t.cancel := by
    refine hreturns.run_eq ?_
    rw [List.length_append, List.length_singleton]
    have hle : met.length ≤ p.lines.size := by rwa [Nat.zero_add] at hlen
    exact Nat.succ_le_succ (Nat.le_trans hle (Nat.le_mul_of_pos_left _ (Nat.succ_pos _)))
  exact ⟨met, t, fs, hruns, ht, (start_eq_run args rfl).trans hrun, hrecords⟩

/-- A script whose blocks close meets with the fate that `Body.perform` says. -/
theorem exists_runsOff_body (b : Body) (hlines : p.lines.toList = b.lines)
    (hdirect : b.isDirect = true) (env : Env) (settings : Settings) (args : List String)
    {o : Outcome} (ho : b.perform env { view := firstView p.name args } = o) :
    ∃ met fate, RunsOff env args (ofProgram p settings) met fate ∧
      fate.isReturn = o.stuck?.isNone ∧ fate.view = o.stuck?.getD o.view ∧
      (fate.isReturn = true → met.flatMap carried = o.trail) := by
  obtain ⟨met, t, fs, hruns, ht, hstart, hrecords⟩ :=
    exists_run_body b hlines hdirect env settings args
  have hstuck := hrecords.stuck?
  have htrail := hrecords.trail
  rw [ho] at ht hstuck htrail
  rw [Option.none_or] at hstuck
  cases h : o.stuck? with
  | none =>
    rw [h] at hstuck
    have hcomes := hruns.comes (lineEnds_of_findSome? hstuck.symm)
      (.done (lineEnds_of_no_line env ht.nextLine?_eq_none) (ht.step_eq_done env))
    refine ⟨_, _, ⟨⟨hcomes, ?_⟩, ?_⟩, rfl, (view_cancel ht.phase).trans ht.view, fun _ => ?_⟩
    · rintro _ ⟨⟩
      exact hstart
    · rintro _ ⟨⟩
      exact ⟨met, t, rfl, ht.phase, congrArg Walk.next ht.walk, rfl⟩
    · rw [List.flatMap_append, List.flatMap_singleton, carried, ht.nextLine?_eq_none,
        List.append_nil, htrail]
      rfl
  | some v =>
    rw [h] at hstuck
    obtain ⟨met', u, hcomes, hu⟩ := hruns.exists_hangs hstuck.symm
    refine ⟨met', .hangs u, ⟨⟨hcomes, ?_⟩, ?_⟩, rfl, hu, fun hreturn => by cases hreturn⟩
    · intro t ht
      cases ht
    · intro t ht
      cases ht

/-- **Conditionals mean what they say.**  Take a script whose blocks close, in which every part of
a chain stands on a line of its own and everything between the conditionals is carried out at once.
Whatever arguments and surroundings it is given: if its body has a meaning, the script runs off its
end, every line on the way comes to an end, and what it has sent out and its variables are those
that the meaning gives.  If it has none, the script hangs in a line that never ends. -/
theorem start_view_eq_eval (b : Body) (hlines : p.lines.toList = b.lines)
    (hparted : b.isParted = true) (hdirect : b.isDirect = true) (env : Env) (settings : Settings)
    (args : List String) :
    (∀ v, b.eval env (firstView p.name args) = some v →
      ∃ met t, Runs env ((ofProgram p settings).begun args) met t ∧
        (∀ u ∈ met, u.lineEnds env = true) ∧ t.phase = .running ∧ t.walk.next = p.lines.size ∧
        start env args (ofProgram p settings) = t.cancel ∧
        (start env args (ofProgram p settings)).phase = .stopped ∧
        (start env args (ofProgram p settings)).view = v) ∧
    (b.eval env (firstView p.name args) = none →
      ∃ met u, Comes env ((ofProgram p settings).begun args) met (.hangs u)) := by
  obtain ⟨met, t, fs, hruns, ht, hstart, hrecords⟩ :=
    exists_run_body b hlines hdirect env settings args
  have hresult := b.result?_perform env hparted { view := firstView p.name args }
  change _ = b.eval env (firstView p.name args) at hresult
  have hstuck := hrecords.stuck?
  rw [Option.none_or] at hstuck
  rw [← hresult, Outcome.result?]
  cases h : (b.perform env { view := firstView p.name args }).stuck? with
  | none =>
    rw [h] at hstuck
    refine ⟨fun v hv => ⟨met, t, hruns, lineEnds_of_findSome? hstuck.symm, ht.phase,
      congrArg Walk.next ht.walk, hstart, ?_, ?_⟩, fun hnone => by cases hnone⟩
    · rw [hstart, phase_cancel ht.phase]
    · rw [hstart, view_cancel ht.phase, ht.view]
      exact Option.some.inj hv
  | some v =>
    rw [h] at hstuck
    refine ⟨fun w hw => (by cases hw), fun _ => ?_⟩
    obtain ⟨met', u, hcomes, -⟩ := hruns.exists_hangs hstuck.symm
    exact ⟨met', u, hcomes⟩

end Script

/-! ## An example -/

namespace Layout

/-- A line of a script called `nested`. -/
def nestedLine (number : Nat) (text : String) : Line :=
  .ofText "nested" number text

/-- An opening with its brace on the line itself. -/
def Opening.braced {lead : Lead} (line : Line) (head : Head)
    (reads : line.statement? = some (.block head .here)) (fits : lead.Fits head line) :
    Opening lead :=
  ⟨line, head, none, reads, nofun, fits⟩

/-- The first line of `nested`. -/
def outerOpening : Opening .first :=
  .braced (nestedLine 1 "if_0 \x7b") (.ifArgs 0) (by decide +kernel) rfl

/-- The branch of `nested` that is a conditional itself. -/
def innerBody : Body :=
  .chain
    (.block (.braced (nestedLine 2 "if_1 \x7b") (.ifArgs 1) (by decide +kernel) rfl)
      (.plain ⟨nestedLine 3 "echo inner", by decide +kernel⟩ .nil)
      ⟨nestedLine 4 "\x7d", by decide +kernel⟩ .stop)
    .nil

/-- Two branches, the first of which ends with a conditional of its own. -/
def nested : Body :=
  .chain
    (.block outerOpening innerBody ⟨nestedLine 5 "\x7d", by decide +kernel⟩
      (.block (.braced (nestedLine 6 "else \x7b") .otherwise (by decide +kernel) ⟨rfl, by decide⟩)
        (.plain ⟨nestedLine 7 "echo other", by decide +kernel⟩ .nil)
        ⟨nestedLine 8 "\x7d", by decide +kernel⟩ .stop))
    .nil

/-- The program `nested`. -/
def nestedProgram : Program where
  name := "nested"
  lines := nested.lines.toArray

/-- A script that sends out its second argument. -/
def circle : Body :=
  .plain ⟨.ofText "circle" 1 "echo %2", by decide +kernel⟩ .nil

/-- The program `circle`. -/
def circleProgram : Program where
  name := "circle"
  lines := circle.lines.toArray

end Layout

namespace Script

/-- With an argument `nested` means the echo in its inner conditional. -/
theorem eval_nested : nested.eval {} (firstView "nested" ["x"]) =
    some ((firstView "nested" ["x"]).send (.echo "inner")) := by
  have hecho : (nestedLine 3 "echo inner").statement? = some (.echo "inner") := by decide +kernel
  have hsigil : ("inner".toList.any
      ((firstView "nested" ["x"]).scopes.sigils ({} : Env).globals).isSigil) = false := by
    decide +kernel
  have hends := Scopes.ends_of_no_sigil (firstView "nested" ["x"]).scopes _ hsigil
  have hinner : (firstView "nested" ["x"]).substitute {} "inner" = "inner" :=
    Sigils.substitute_eq_self hsigil
  have hline : PlainLine.perform? {} ⟨nestedLine 3 "echo inner", by decide +kernel⟩
      (firstView "nested" ["x"]) = some ((firstView "nested" ["x"]).send (.echo "inner")) := by
    rw [PlainLine.perform?, hecho]
    dsimp only
    rw [Statement.perform?, Statement.endsIn_of_isDirect {} rfl, Statement.ends, Statement.asked,
      List.all_cons, hends, Statement.perform, hinner]
    rfl
  change (((PlainLine.perform? {} _ _).bind _).bind _).bind _ = _
  rw [hline]
  rfl

/-- So that is all that the script sends out. -/
theorem start_nested_view_eq_eval :
    nested.isParted = true ∧ nested.isDirect = true ∧
      nested.eval {} (firstView "nested" ["x"]) =
        some ((firstView "nested" ["x"]).send (.echo "inner")) ∧
      ∃ met t, Runs {} ((ofProgram nestedProgram {}).begun ["x"]) met t ∧
        (∀ u ∈ met, u.lineEnds {} = true) ∧ t.phase = .running ∧
        t.walk.next = nestedProgram.lines.size ∧
        start {} ["x"] (ofProgram nestedProgram {}) = t.cancel ∧
        (start {} ["x"] (ofProgram nestedProgram {})).phase = .stopped ∧
        (start {} ["x"] (ofProgram nestedProgram {})).view =
          (firstView "nested" ["x"]).send (.echo "inner") := by
  have hdirect : nested.isDirect = true := by decide +kernel
  exact ⟨rfl, hdirect, eval_nested,
    (start_view_eq_eval nested rfl rfl hdirect {} {} ["x"]).1 _ eval_nested⟩

/-- A list, and an item of it whose number is the item itself. -/
def circularArgs : List String :=
  ["a|b", "%1[%2]"]

theorem result?_circularArgs :
    Substitution.result? ((firstView "circle" circularArgs).scopes.sigils .empty) ['%', '2'] =
      none :=
  Substitution.result?_eq_none_of_startsOn_self <|
    @Substitution.startsOn_self _ _ ['%', '1', '[', '%', '2', ']'] (List.all_eq_true.mp rfl)
      (by decide +kernel) (by decide +kernel) (by decide +kernel) (by decide +kernel)

/-- **A script without any conditional need not get to its end.**  With these arguments the line of
`circle` never comes to an end. -/
theorem circular_args_hang :
    circleProgram.lines.toList = circle.lines ∧ circle.isParted = true ∧ circle.isDirect = true ∧
      Comes {} ((ofProgram circleProgram {}).begun circularArgs)
        [(ofProgram circleProgram {}).begun circularArgs]
        (.hangs ((ofProgram circleProgram {}).begun circularArgs)) ∧
      ¬ ∃ met t, Comes {} ((ofProgram circleProgram {}).begun circularArgs) met (.returns t) := by
  have hat := at_begun circleProgram {} circularArgs
  have hline : ((ofProgram circleProgram {}).begun circularArgs).nextLine? =
      some (.ofText "circle" 1 "echo %2") := by
    rw [hat.nextLine?]
    rfl
  have hread : (Line.ofText "circle" 1 "echo %2").statement? = some (.echo "%2") := by
    decide +kernel
  have hends : ((ofProgram circleProgram {}).begun circularArgs).lineEnds {} = false := by
    have hscopes := (hat.atStatement (.ofText "circle" 1 "echo %2") (.echo "%2")).scopes
    rw [lineEnds_of_statement {} hline hread, ends_of_steers {} rfl, hscopes]
    change ((Substitution.result? ((firstView "circle" circularArgs).scopes.sigils .empty)
      ['%', '2']).isSome && true) = false
    rw [result?_circularArgs]
    rfl
  have hhangs := Comes.hangs hends
  refine ⟨rfl, rfl, by decide +kernel, hhangs, ?_⟩
  rintro ⟨met, t, hreturns⟩
  cases (hhangs.unique hreturns).2

end Script

end StreamScript
