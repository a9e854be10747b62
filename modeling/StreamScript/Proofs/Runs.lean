import StreamScript.Proofs.Course

/-!
# Runs

`Script.run` is given a number of steps that is large enough.  This module says
what it is large enough for.  `Runs` relates a state to one that is reached from
it line by line, and `Returns` to the state in which a call leaves the script;
neither knows of any bound.  Both keep the list of the states met on the way, so
that what happened in a run can be counted.

`Returns.run_eq` joins the two sides: a call that returns, and meets no more
states than the bound, returns what `run` computes.
-/

namespace StreamScript

namespace Script

variable {env : Env} {s t u : Script} {met met' : List Script}

/-- Lines run one after another.  The list holds the states in front of these lines. -/
inductive Runs (env : Env) : Script → List Script → Script → Prop where
  | nil (s : Script) : Runs env s [] s
  | cons {s t u : Script} {met : List Script} (h : step env s = .again t)
      (rest : Runs env t met u) : Runs env s (s :: met) u

/-- A call comes back after some lines.  The list holds the states that it has met, the last of
which is the one in which nothing was left to do. -/
inductive Returns (env : Env) : Script → List Script → Script → Prop where
  | done {s t : Script} (h : step env s = .done t) : Returns env s [s] t
  | again {s t u : Script} {met : List Script} (h : step env s = .again t)
      (rest : Returns env t met u) : Returns env s (s :: met) u

namespace Runs

theorem single (h : step env s = .again t) : Runs env s [s] t :=
  .cons h (.nil t)

theorem append (h : Runs env s met t) (h' : Runs env t met' u) : Runs env s (met ++ met') u := by
  induction h with
  | nil => exact h'
  | cons hstep _ ih => exact .cons hstep (ih h')

theorem returns (h : Runs env s met t) (h' : Returns env t met' u) :
    Returns env s (met ++ met') u := by
  induction h with
  | nil => exact h'
  | cons hstep _ ih => exact .again hstep (ih h')

end Runs

namespace Returns

/-- A call returns one state, and meets the same states on the way whenever it is made. -/
theorem unique (h : Returns env s met t) (h' : Returns env s met' u) : met = met' ∧ t = u := by
  induction h generalizing met' with
  | done hstep =>
    cases h' with
    | done hstep' =>
      rw [hstep] at hstep'
      cases hstep'
      exact ⟨rfl, rfl⟩
    | again hstep' =>
      rw [hstep] at hstep'
      cases hstep'
  | again hstep _ ih =>
    cases h' with
    | done hstep' =>
      rw [hstep] at hstep'
      cases hstep'
    | again hstep' rest' =>
      rw [hstep] at hstep'
      cases hstep'
      obtain ⟨rfl, rfl⟩ := ih rest'
      exact ⟨rfl, rfl⟩

theorem steps_eq (h : Returns env s met t) {n : Nat} (hn : met.length ≤ n) :
    steps env n s = t := by
  induction h generalizing n with
  | done hstep =>
    obtain ⟨m, rfl⟩ := Nat.exists_eq_add_of_le' hn
    simp only [List.length_cons, List.length_nil, Nat.zero_add]
    rw [steps, hstep]
  | again hstep _ ih =>
    rw [List.length_cons] at hn
    obtain ⟨m, rfl⟩ := Nat.exists_eq_add_of_le' (Nat.le_trans (Nat.le_add_left 1 _) hn)
    rw [steps, hstep]
    exact ih (Nat.le_of_succ_le_succ hn)

/-- A call that meets no more states than `run` allows for returns what `run` computes. -/
theorem run_eq (h : Returns env s met t) (hn : met.length ≤ stepBound env s) :
    run env s = t :=
  h.steps_eq hn

end Returns

/-! ## The start -/

/-- A script that has just been started with some arguments. -/
def begun (args : List String) (s : Script) : Script :=
  let s := { s with scopes := s.scopes.setArgs args, phase := .running }
  s.status ("[Starting '" ++ s.name ++ "']")

theorem start_eq_run (args : List String) (h : s.phase = .notStarted) :
    start env args s = run env (s.begun args) := by
  rw [start, h]
  rfl

/-! ## The line in front of a script -/

/-- The line that runs next, if the script is running and there is one. -/
def nextLine? (s : Script) : Option Line :=
  if s.phase = .running then s.walk.program.lines[s.walk.next]? else none

/-- A script that has stepped behind the next line. -/
def behindLine (s : Script) : Script :=
  { s with walk := { s.walk with next := s.walk.next + 1 } }

/-- Without a line in front of it, a script does not run on. -/
theorem step_of_nextLine?_eq_none (env : Env) (h : s.nextLine? = none) :
    ∃ t, step env s = .done t := by
  unfold step
  cases hphase : s.phase with
  | notStarted => exact ⟨s, rfl⟩
  | stopped => exact ⟨s, rfl⟩
  | paused => exact ⟨_, rfl⟩
  | running =>
    have hsize : s.walk.program.lines.size ≤ s.walk.next := by
      rw [nextLine?, if_pos hphase] at h
      exact Array.getElem?_eq_none_iff.mp h
    have hadv : s.walk.advance? = none := by
      rw [Walk.advance?, if_neg (Nat.not_lt.mpr hsize)]
    exact ⟨s.cancel, by rw [hadv]⟩

/-- At the end of the program a running script ends. -/
theorem step_of_advance?_eq_none (env : Env) (hphase : s.phase = .running)
    (h : s.walk.advance? = none) : step env s = .done s.cancel := by
  rw [step, hphase]
  dsimp only
  rw [h]

theorem phase_of_nextLine? {line : Line} (h : s.nextLine? = some line) : s.phase = .running := by
  unfold nextLine? at h
  split at h
  · assumption
  · cases h

theorem getElem?_of_nextLine? {line : Line} (h : s.nextLine? = some line) :
    s.walk.program.lines[s.walk.next]? = some line := by
  rwa [nextLine?, if_pos (phase_of_nextLine? h)] at h

theorem next_lt_size {line : Line} (h : s.nextLine? = some line) :
    s.walk.next < s.walk.program.lines.size :=
  (Array.getElem?_eq_some_iff.mp (getElem?_of_nextLine? h)).1

/-- A script steps behind the line in front of it and carries it out there. -/
theorem step_of_nextLine? (env : Env) {line : Line} (h : s.nextLine? = some line) :
    step env s = proceed (runLine env s.behindLine) := by
  have hphase := phase_of_nextLine? h
  have hadv : s.walk.advance? = some s.behindLine.walk := if_pos (next_lt_size h)
  unfold step
  rw [hadv]
  split
  · next hp => rw [hphase] at hp; cases hp
  · next hp => rw [hphase] at hp; cases hp
  · next hp => rw [hphase] at hp; cases hp
  · rfl

theorem index?_behindLine {line : Line} (h : s.nextLine? = some line) :
    s.behindLine.walk.index? = some s.walk.next :=
  if_pos ⟨Nat.succ_pos _, next_lt_size h⟩

theorem line?_behindLine {line : Line} (h : s.nextLine? = some line) :
    s.behindLine.walk.line? = some line := by
  rw [Walk.line?, index?_behindLine h]
  exact getElem?_of_nextLine? h

/-- The state in which the statement of a line is carried out. -/
def atStatement (line : Line) (statement : Statement) (s : Script) : Script :=
  (s.behindLine.remember line).closeSingle line statement

theorem sameButPlace_atStatement (line : Line) (statement : Statement) (s : Script) :
    SameButPlace s (s.atStatement line statement) :=
  have hbehind : SameButPlace s s.behindLine := (SameButPlace.refl s).withWalk rfl
  (hbehind.trans (s.behindLine.sameStand_remember line).sameButPlace).trans
    (SameButPlace.closeSingle line statement _)

theorem walk_atStatement (line : Line) (statement : Statement) (s : Script) :
    (s.atStatement line statement).walk.next = s.walk.next + 1 ∧
      (s.atStatement line statement).walk.program = s.walk.program := by
  unfold atStatement closeSingle
  split
  · exact ⟨rfl, rfl⟩
  · exact iteInduction (motive := fun t : Script => t.walk.next = s.walk.next + 1 ∧
      t.walk.program = s.walk.program) (fun _ => ⟨rfl, rfl⟩) fun _ => ⟨rfl, rfl⟩

theorem index?_atStatement {next : Line} (h : s.nextLine? = some next) (line : Line)
    (statement : Statement) : (s.atStatement line statement).walk.index? = some s.walk.next := by
  obtain ⟨hnext, hprogram⟩ := walk_atStatement line statement s
  rw [Walk.index?, hnext, hprogram]
  exact if_pos ⟨Nat.succ_pos _, next_lt_size h⟩

theorem runLine_of_statement (env : Env) {line : Line} {statement : Statement}
    (h : s.nextLine? = some line) (hs : line.statement? = some statement) :
    runLine env s.behindLine = execute env statement (s.atStatement line statement) := by
  unfold runLine
  rw [line?_behindLine h]
  dsimp only
  rw [hs]
  rfl

theorem runLine_of_no_statement (env : Env) {line : Line} (h : s.nextLine? = some line)
    (hs : line.statement? = none) :
    runLine env s.behindLine =
      (.next, (s.behindLine.remember line).report ("unknown command '" ++ line.text ++ "'")) := by
  unfold runLine
  rw [line?_behindLine h]
  dsimp only
  rw [hs]

/-! ## One-line conditionals -/

theorem execute_single_of_false {head : Head} {body : Statement} {idx : Nat}
    (hidx : s.walk.index? = some idx) (h : enterSingle env head idx s = (false, t)) :
    execute env (.single head body) s = (.next, t) := by
  rw [execute, hidx]
  dsimp only
  rw [h]

theorem execute_single_of_true {head : Head} {body : Statement} {idx : Nat}
    (hidx : s.walk.index? = some idx) (h : enterSingle env head idx s = (true, t)) :
    execute env (.single head body) s =
      ((execute env body t).1,
        if (execute env body t).2.walk.next = t.walk.next then
          (execute env body t).2.skipRivals head
        else (execute env body t).2) := by
  rw [execute, hidx]
  dsimp only
  rw [h]

end Script

end StreamScript
