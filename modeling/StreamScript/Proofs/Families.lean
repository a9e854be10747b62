import StreamScript.Proofs.Events.Heeding
import StreamScript.Proofs.RoundTrips

/-!
# Families of `if_N` lines

Lines `if_N` that stand one below another with their bodies beside them form a family,
of which one body is meant to run at most: that of the first line for which there are
enough arguments.  Once it has run, the rest of the family is passed over, but only if
the script still stands behind the line.  A call leaves that place.  When it comes back
to it, nobody remembers that a body has run, and the lines that are left are tested
anew.

`OnlyTakes` says which bodies run until the script stands behind the family, and
`onlyTakes_iff` when that is as it is meant to be: for commands always, and for calls as
long as both of their jumps are made and no line of the rest gets by with the arguments
that the subroutine has left.  The proof follows the lines of a family.  A line without
enough arguments makes no difference (`onlyTakes_iff_of_untaken`), a command ends the
matter (`onlyTakes_of_command`), and a call that comes back leaves a family of which
no body may run (`onlyTakes_nil_iff`).
-/

namespace StreamScript

open Text

namespace Statement

/-- Whether a statement is a command, which neither steers the script nor ends it. -/
def isCommand : Statement → Bool
  | .exit => false
  | s => !s.steers

theorem steers_of_isCommand {statement : Statement} (h : statement.isCommand = true) :
    statement.steers = false := by
  cases statement with
  | exit => rfl
  | _ => exact Bool.not_eq_true' _ ▸ h

/-- Behind a command a script runs on or waits. -/
theorem flow_of_isCommand (env : Env) {statement : Statement} (h : statement.isCommand = true)
    (s : Script) :
    (Script.execute env statement s).1 = .next ∨ (Script.execute env statement s).1 = .wait := by
  cases statement with
  | block | single | rightBrace | goto | gosub | leave | exit => cases h
  | nextRoom | move | pause | matchWait | waitFor | waitForRegex | waitPrompt | waitEval =>
    exact .inr rfl
  | _ => exact .inl rfl

end Statement

/-- A line whose body runs if there are so many arguments. -/
structure ArgsLine where
  line : Line
  count : Nat
  body : Statement
  reads : line.statement? = some (.single (.ifArgs count) body)

namespace Script

variable {env : Env} {p : Program} {q behind : Nat} {s t u v : Script} {c : Situation}
  {met met' : List Script} {taken : List Nat} {l : ArgsLine} {family after : List ArgsLine}
  {rest : List Line} {label args : String} {target : Label}

/-! ## What is reached -/

/-- What a script becomes on the way, or as what a call leaves it. -/
def Reaches (env : Env) (s : Script) (met : List Script) (t : Script) : Prop :=
  Runs env s met t ∨ Returns env s met t

theorem Runs.reaches (h : Runs env s met v) (h' : Reaches env v met' t) :
    Reaches env s (met ++ met') t :=
  h'.imp h.append h.returns

theorem Reaches.of_again (hstep : step env s = .again v) (h : Reaches env s met t) :
    met = [] ∧ t = s ∨ ∃ more, met = s :: more ∧ Reaches env v more t := by
  rcases h with h | h
  · cases h with
    | nil => exact .inl ⟨rfl, rfl⟩
    | cons hstep' rest =>
      cases hstep.symm.trans hstep'
      exact .inr ⟨_, rfl, .inl rest⟩
  · cases h with
    | done hstep' => cases hstep.symm.trans hstep'
    | again hstep' rest =>
      cases hstep.symm.trans hstep'
      exact .inr ⟨_, rfl, .inr rest⟩

theorem Reaches.of_done (hstep : step env s = .done v) (h : Reaches env s met t) :
    met = [] ∧ t = s ∨ met = [s] ∧ t = v := by
  rcases h with h | h
  · cases h with
    | nil => exact .inl ⟨rfl, rfl⟩
    | cons hstep' => cases hstep.symm.trans hstep'
  · cases h with
    | done hstep' =>
      cases hstep.symm.trans hstep'
      exact .inr ⟨rfl, rfl⟩
    | again hstep' => cases hstep.symm.trans hstep'

/-- What is reached lies on a run or behind it. -/
theorem Runs.mem_or_of_reaches (h : Runs env s met v) (h' : Reaches env s met' t) :
    t ∈ met ∨ ∃ more, met' = met ++ more ∧ Reaches env v more t := by
  induction h generalizing met' with
  | nil => exact .inr ⟨met', rfl, h'⟩
  | cons hstep _ ih =>
    rcases h'.of_again hstep with ⟨-, rfl⟩ | ⟨more, rfl, hmore⟩
    · exact .inl (List.mem_cons_self ..)
    · rcases ih hmore with hmem | ⟨more', rfl, hmore'⟩
      · exact .inl (List.mem_cons_of_mem _ hmem)
      · exact .inr ⟨more', rfl, hmore'⟩

/-! ## Which bodies run -/

/-- The place of the `if_N` line in front of a script, if its body is carried out. -/
def takes? (env : Env) (s : Script) : Option Nat :=
  match s.nextLine? with
  | none => none
  | some line =>
      match line.statement? with
      | some (.single (.ifArgs count) body) =>
          let entered := enterSingle env (.ifArgs count) s.walk.next
            (s.atStatement line (.single (.ifArgs count) body))
          if entered.1 then some s.walk.next else none
      | _ => none

/-- A running script `t` stands at a place, and the subroutines that are open are those of `s`. -/
structure StandsAt (s : Script) (place : Nat) (t : Script) : Prop where
  phase : t.phase = .running
  next : t.walk.next = place
  gosubs : t.gosubs = s.gosubs

/-- A script comes to stand at a place, and on the way there it carries out the bodies of the `if_N`
lines at certain other places. -/
def OnlyTakes (env : Env) (s : Script) (taken : List Nat) (behind : Nat) : Prop :=
  ∃ met t, Reaches env s met t ∧ StandsAt s behind t ∧ met.filterMap (takes? env) = taken

/-- The bodies that run are those that run on the first part of the way and those that run on the
rest of it. -/
theorem onlyTakes_iff_of_runs (taken : List Nat) (h : Runs env s met v) (hv : v.gosubs = s.gosubs)
    (hmet : ∀ u ∈ met, ¬ StandsAt s behind u) :
    OnlyTakes env s (met.filterMap (takes? env) ++ taken) behind ↔
      OnlyTakes env v taken behind := by
  constructor
  · rintro ⟨met', t, hreaches, hstands, htaken⟩
    rcases h.mem_or_of_reaches hreaches with hmem | ⟨more, rfl, hmore⟩
    · exact absurd hstands (hmet t hmem)
    · rw [List.filterMap_append] at htaken
      exact ⟨more, t, hmore, ⟨hstands.phase, hstands.next, hstands.gosubs.trans hv.symm⟩,
        List.append_cancel_left htaken⟩
  · rintro ⟨met', t, hreaches, hstands, htaken⟩
    exact ⟨met ++ met', t, h.reaches hreaches,
      ⟨hstands.phase, hstands.next, hstands.gosubs.trans hv⟩,
      by rw [List.filterMap_append, htaken]⟩

/-- A script that ends before does not come to stand anywhere. -/
theorem not_onlyTakes_of_stops (h : Runs env s met v) (hmet : ∀ u ∈ met, ¬ StandsAt s behind u)
    (hv : ¬ StandsAt s behind v) (hstep : step env v = .done t) (ht : t.phase = .stopped) :
    ¬ OnlyTakes env s taken behind := by
  rintro ⟨met', t', hreaches, hstands, -⟩
  rcases h.mem_or_of_reaches hreaches with hmem | ⟨more, -, hmore⟩
  · exact hmet t' hmem hstands
  · rcases hmore.of_done hstep with ⟨-, rfl⟩ | ⟨-, rfl⟩
    · exact hv hstands
    · cases ht.symm.trans hstands.phase

/-! ## A line of a family -/

namespace InFront

theorem not_standsAt (h : InFront p q c t) (hne : q ≠ behind) : ¬ StandsAt s behind t :=
  fun hstands => hne (h.next.symm.trans hstands.next)

theorem index? (h : InFront p (q + 1) c s) (hq : q < p.lines.size) :
    s.walk.index? = some q := by
  rw [Walk.index?, h.next, h.program]
  exact if_pos ⟨Nat.succ_pos q, hq⟩

theorem enterSingle_ifArgs (env : Env) (h : InFront p q c s) (count idx : Nat) :
    (enterSingle env (.ifArgs count) idx s).1 = decide (count ≤ c.scopes.args.length) ∧
      InFront p q c (enterSingle env (.ifArgs count) idx s).2 := by
  have hdecided := h.sameStand (s.sameStand_decideHead env (.ifArgs count))
  have hscopes : (decideHead env (.ifArgs count) s).2.scopes = c.scopes :=
    (scopes_debug ..).trans h.scopes
  rw [hscopes] at hdecided
  refine ⟨?_, hdecided.program, hdecided.next, hdecided.phase, hscopes, hdecided.watch,
    hdecided.gosubs⟩
  rw [← h.scopes]
  rfl

theorem takes?_eq (env : Env) (h : InFront p q c s) (hline : p.lines[q]? = some l.line) :
    takes? env s = if l.count ≤ c.scopes.args.length then some q else none := by
  have henter := ((h.atStatement l.line (.single (.ifArgs l.count) l.body)).enterSingle_ifArgs env
    l.count s.walk.next).1
  rw [takes?, h.nextLine?.trans hline]
  dsimp only
  rw [l.reads]
  dsimp only
  rw [henter, h.next]
  simp only [decide_eq_true_eq]

/-- A line without enough arguments. -/
theorem step_of_untaken (env : Env) (h : InFront p q c s) (hline : p.lines[q]? = some l.line)
    (hcount : c.scopes.args.length < l.count) :
    ∃ t, step env s = .again t ∧ InFront p (q + 1) c t := by
  have hat := h.atStatement l.line (.single (.ifArgs l.count) l.body)
  have hidx := hat.index? (Array.getElem?_eq_some_iff.mp hline).1
  obtain ⟨hdecided, hentered⟩ := hat.enterSingle_ifArgs env l.count q
  rw [decide_eq_false (Nat.not_le.mpr hcount)] at hdecided
  refine ⟨_, ?_, hentered⟩
  rw [h.step_eq env hline l.reads, execute_single_of_false hidx (Prod.ext hdecided rfl)]
  rfl

/-- A line with enough arguments. -/
theorem execute_of_taken (env : Env) (h : InFront p q c s) (hline : p.lines[q]? = some l.line)
    (hcount : l.count ≤ c.scopes.args.length) :
    let statement := Statement.single (.ifArgs l.count) l.body
    ∃ u, InFront p (q + 1) c u ∧
      execute env statement (s.atStatement l.line statement) =
        ((execute env l.body u).1,
          if (execute env l.body u).2.walk.next = q + 1 then
            (execute env l.body u).2.skipRivals (.ifArgs l.count)
          else (execute env l.body u).2) := by
  intro statement
  have hat := h.atStatement l.line statement
  have hidx := hat.index? (Array.getElem?_eq_some_iff.mp hline).1
  obtain ⟨hdecided, hentered⟩ := hat.enterSingle_ifArgs env l.count q
  rw [decide_eq_true hcount] at hdecided
  refine ⟨_, hentered, ?_⟩
  rw [execute_single_of_true hidx (Prod.ext hdecided rfl), hentered.next]

/-- Behind a line that is not of the family nothing is passed over. -/
theorem skipRivals (h : InFront p q c s)
    (hnot : ∀ line, p.lines[q]? = some line → Walk.isLoneIfArgs line = false) (count : Nat) :
    InFront p q c (s.skipRivals (.ifArgs count)) := by
  refine ⟨h.program, ?_, h.phase, h.scopes, h.watch, h.gosubs⟩
  change s.walk.next + ((s.walk.program.lines.toList.drop s.walk.next).takeWhile _).length = q
  rw [h.next, h.program]
  cases hlines : p.lines.toList.drop q with
  | nil => rfl
  | cons line lines =>
    have hline := hnot line (Program.From.head hlines)
    rw [List.takeWhile_cons_of_neg (by rw [hline]; decide)]
    rfl

/-- The rest of a family is passed over. -/
theorem next_skipRivals (h : InFront p q c s)
    (hfrom : p.From q (family.map ArgsLine.line ++ rest))
    (hrest : ∀ line ∈ rest.head?, Walk.isLoneIfArgs line = false) (count : Nat) :
    (s.skipRivals (.ifArgs count)).walk.next = q + family.length := by
  have hfamily : ∀ line ∈ family.map ArgsLine.line, Walk.isLoneIfArgs line = true := by
    intro line hline
    obtain ⟨l, -, rfl⟩ := List.mem_map.mp hline
    rw [Walk.isLoneIfArgs, l.reads]
  have hnone : rest.takeWhile Walk.isLoneIfArgs = [] := by
    cases rest with
    | nil => rfl
    | cons line rest =>
      exact List.takeWhile_cons_of_neg (by rw [hrest line rfl]; decide)
  change s.walk.next + ((s.walk.program.lines.toList.drop s.walk.next).takeWhile _).length = _
  rw [h.next, h.program, hfrom, List.takeWhile_append_of_pos hfamily, hnone, List.append_nil,
    List.length_map]

end InFront

/-! ## Lines without enough arguments -/

/-- A line without enough arguments makes no difference. -/
theorem onlyTakes_iff_of_untaken (env : Env) (taken : List Nat) (h : InFront p q c s)
    (hline : p.lines[q]? = some l.line) (hcount : c.scopes.args.length < l.count)
    (hne : q ≠ behind) :
    ∃ t, InFront p (q + 1) c t ∧
      (OnlyTakes env s taken behind ↔ OnlyTakes env t taken behind) := by
  obtain ⟨t, hstep, ht⟩ := h.step_of_untaken env hline hcount
  have htakes : [s].filterMap (takes? env) = [] := by
    rw [List.filterMap_cons_none, List.filterMap_nil]
    rw [h.takes?_eq env hline, if_neg (Nat.not_le.mpr hcount)]
  have hiff := onlyTakes_iff_of_runs taken (Runs.single hstep)
    (ht.gosubs.trans h.gosubs.symm) (List.forall_mem_singleton.mpr (h.not_standsAt hne))
  rw [htakes, List.nil_append] at hiff
  exact ⟨t, ht, hiff⟩

/-- No body runs where there are not enough arguments for any line, and only there. -/
theorem onlyTakes_nil_iff (env : Env) (h : InFront p q c s)
    (hfrom : p.From q (family.map ArgsLine.line ++ rest)) :
    OnlyTakes env s [] (q + family.length) ↔ ∀ l ∈ family, c.scopes.args.length < l.count := by
  induction family generalizing q s with
  | nil =>
    have hnone : OnlyTakes env s [] (q + 0) :=
      ⟨[], s, .inl (.nil s), ⟨h.phase, h.next, rfl⟩, rfl⟩
    exact ⟨fun _ => List.forall_mem_nil _, fun _ => hnone⟩
  | cons l family ih =>
    have hbehind : q + (l :: family).length = q + 1 + family.length := by
      rw [List.length_cons]
      omega
    have hne : q ≠ q + 1 + family.length := by omega
    rw [hbehind, List.forall_mem_cons]
    rcases Nat.lt_or_ge c.scopes.args.length l.count with hcount | hcount
    · obtain ⟨t, ht, hiff⟩ := onlyTakes_iff_of_untaken env [] h hfrom.head hcount hne
      rw [hiff, ih ht hfrom.tail]
      exact (and_iff_right hcount).symm
    · refine iff_of_false ?_ fun hall => Nat.not_le.mpr hall.1 hcount
      rintro ⟨met, t, hreaches, hstands, htaken⟩
      have htakes := h.takes?_eq env hfrom.head
      rw [if_pos hcount] at htakes
      -- the script does not stand behind the family yet, so the line in front of it is run
      have hmet : ∃ more, met = s :: more := by
        cases hstep : step env s with
        | again v =>
          rcases hreaches.of_again hstep with ⟨-, rfl⟩ | ⟨more, rfl, -⟩
          · exact absurd hstands (h.not_standsAt hne)
          · exact ⟨more, rfl⟩
        | done v =>
          rcases hreaches.of_done hstep with ⟨-, rfl⟩ | ⟨rfl, -⟩
          · exact absurd hstands (h.not_standsAt hne)
          · exact ⟨[], rfl⟩
      obtain ⟨more, rfl⟩ := hmet
      rw [List.filterMap_cons_some htakes] at htaken
      cases htaken

/-! ## The line whose body runs -/

/-- A command runs alone. -/
theorem onlyTakes_of_command (env : Env) (h : InFront p q c s)
    (hfrom : p.From q (l.line :: (after.map ArgsLine.line ++ rest)))
    (hrest : ∀ line ∈ rest.head?, Walk.isLoneIfArgs line = false)
    (hcount : l.count ≤ c.scopes.args.length) (hbody : l.body.isCommand = true) :
    OnlyTakes env s [q] (q + 1 + after.length) := by
  obtain ⟨u, hu, hexecute⟩ := h.execute_of_taken env hfrom.head hcount
  have hstep := h.step_eq env hfrom.head l.reads
  rw [hexecute] at hstep
  have hcourse := execute_sameCourse env (Statement.steers_of_isCommand hbody) u
  have hfront := hu.sameCourse hcourse
  have hnext := hfront.next_skipRivals hfrom.tail hrest l.count
  rw [if_pos hfront.next] at hstep
  have htakes : [s].filterMap (takes? env) = [q] := by
    rw [List.filterMap_cons_some, List.filterMap_nil]
    rw [h.takes?_eq env hfrom.head, if_pos hcount]
  have hstands (t : Script) (hphase : t.phase = .running)
      (hwalk : t.walk.next = q + 1 + after.length) (hgosubs : t.gosubs = c.gosubs) :
      StandsAt s (q + 1 + after.length) t :=
    ⟨hphase, hwalk, hgosubs.trans h.gosubs.symm⟩
  rcases Statement.flow_of_isCommand env hbody u with hflow | hflow
  · rw [hflow] at hstep
    exact ⟨[s], _, .inl (.single hstep), hstands _ hfront.phase hnext hfront.gosubs, htakes⟩
  · rw [hflow] at hstep
    exact ⟨[s], _, .inr (.done hstep), hstands _ hfront.phase hnext hfront.gosubs, htakes⟩

/-! ### Calls -/

theorem takes?_eq_none {line : Line} (env : Env) (h : s.nextLine? = some line)
    (hline : Walk.isLoneIfArgs line = false) : takes? env s = none := by
  rw [takes?, h]
  dsimp only
  split
  · next hs =>
    rw [Walk.isLoneIfArgs, hs] at hline
    cases hline
  · rfl

theorem isLoneIfArgs_of_runsOn {line : Line} (h : line.RunsOn ∨ line.statement? = some .leave) :
    Walk.isLoneIfArgs line = false := by
  rw [Walk.isLoneIfArgs]
  split
  · next hs =>
    rcases h with h | h
    · cases h _ hs
    · cases hs.symm.trans h
  · rfl

/-- A name is that of a subroutine which comes back. -/
structure CallsBack (env : Env) (p : Program) (scopes : Scopes) (label : String)
    (target : Label) : Prop where
  clear : sameName label "clear" = false
  label : p.label? (String.ofList (lowercase (trim (scopes.substitute env.globals label).toList))) =
    some target
  comesBack : p.ComesBack target.line

theorem CallsBack.label?_labelName (h : CallsBack env p c.scopes label target)
    (hs : InFront p q c s) : p.label? (s.labelName env label) = some target := by
  rw [← h.label, ← hs.scopes]
  rfl

/-- Both jumps of a call are made, and the arguments that its subroutine leaves are not enough for
certain lines. -/
structure Undisturbed (env : Env) (p : Program) (c : Situation) (target : Label)
    (after : List ArgsLine) : Prop where
  room : c.gosubs.length < env.settings.maxGosubs
  calls : c.watch.allows env = true
  returns : (c.watch.next env).allows env = true
  leaves : ∀ l ∈ after, c.scopes.args.length - p.dropped target.line < l.count

namespace InFront

/-- A call that is let through runs the lines of its subroutine. -/
theorem runs_of_call (env : Env) (h : InFront p q c s) (hline : p.lines[q]? = some l.line)
    (hcount : l.count ≤ c.scopes.args.length) (hbody : l.body = .gosub label args)
    (hcalls : CallsBack env p c.scopes label target)
    (hroom : c.gosubs.length < env.settings.maxGosubs) (hguard : c.watch.allows env = true) :
    ∃ met v scopes frame, Runs env s met v ∧
      InFront p (target.line + (p.subroutine target.line).length)
        ⟨scopes, c.watch.next env, frame :: c.gosubs⟩ v ∧
      frame.next = q + 1 ∧ scopes.args = c.scopes.args.drop (p.dropped target.line) ∧
      met.filterMap (takes? env) = [q] ∧ ∀ u ∈ met, u = s ∨ u.gosubs = frame :: c.gosubs := by
  obtain ⟨u, hu, hexecute⟩ := h.execute_of_taken env hline hcount
  obtain ⟨t, scopes, frame, hgosub, hframe, hargs, ht⟩ :=
    hu.gosub args hcalls.clear (hcalls.label?_labelName hu) hroom hguard
  have hbody' : execute env l.body u = (.next, t) := by
    rw [hbody]
    exact hgosub
  have hstep := h.step_eq env hline l.reads
  rw [hexecute, hbody'] at hstep
  rw [Nat.min_eq_left (Nat.le_of_lt hcalls.comesBack.lt_size)] at ht
  -- the subroutine may stand right behind the line of the call
  have hfront : InFront p target.line ⟨scopes, c.watch.next env, frame :: c.gosubs⟩
      (if t.walk.next = q + 1 then t.skipRivals (.ifArgs l.count) else t) :=
    iteInduction
      (fun _ => ht.skipRivals
        (fun _ hfirst => isLoneIfArgs_of_runsOn (hcalls.comesBack.first hfirst)) _)
      (fun _ => ht)
  obtain ⟨rest, hfrom⟩ := p.from_subroutine target.line
  obtain ⟨met, v, scopes', hruns, hv, hargs', hmet⟩ :=
    hfront.runs_of_runsOn env hfrom hcalls.comesBack.runsOn
  have hnone : met.filterMap (takes? env) = [] := by
    refine List.filterMap_eq_nil_iff.mpr fun w hw => ?_
    obtain ⟨-, line, hmem, hnext⟩ := hmet w hw
    exact takes?_eq_none env hnext (isLoneIfArgs_of_runsOn (.inl (hcalls.comesBack.runsOn _ hmem)))
  refine ⟨s :: met, v, scopes', frame, .cons hstep hruns, hv, hframe, ?_, ?_, ?_⟩
  · rw [hargs', ← hargs]
    rfl
  · rw [List.filterMap_cons_some ((h.takes?_eq env hline).trans (if_pos hcount)), hnone]
  · exact List.forall_mem_cons.mpr ⟨.inl rfl, fun w hw => .inr (hmet w hw).1⟩

/-- A return that is let through. -/
theorem step_of_leave {line : Line} {scopes : Scopes} {watch : Watch} {frame : Gosub}
    {outer : List Gosub} (h : InFront p q ⟨scopes, watch, frame :: outer⟩ s)
    (hline : p.lines[q]? = some line) (hs : line.statement? = some .leave)
    (hguard : watch.allows env = true) :
    ∃ t scopes', step env s = .again t ∧ scopes'.args = scopes.args ∧
      InFront p (min frame.next p.lines.size) ⟨scopes', watch.next env, outer⟩ t := by
  obtain ⟨t, scopes', hleave, hargs, ht⟩ := (h.atStatement line .leave).leave hguard
  refine ⟨t, scopes', ?_, hargs, ht⟩
  rw [h.step_eq env hline hs, show execute env .leave _ = _ from hleave]
  rfl

/-- A call whose jumps are both made comes back behind its line. -/
theorem runs_roundTrip (env : Env) (h : InFront p q c s) (hline : p.lines[q]? = some l.line)
    (hcount : l.count ≤ c.scopes.args.length) (hbody : l.body = .gosub label args)
    (hcalls : CallsBack env p c.scopes label target)
    (hroom : c.gosubs.length < env.settings.maxGosubs) (hguard : c.watch.allows env = true)
    (hback : (c.watch.next env).allows env = true) :
    ∃ met w scopes, Runs env s met w ∧
      InFront p (q + 1) ⟨scopes, (c.watch.next env).next env, c.gosubs⟩ w ∧
      scopes.args = c.scopes.args.drop (p.dropped target.line) ∧
      met.filterMap (takes? env) = [q] ∧ ∀ u ∈ met, u = s ∨ u.gosubs ≠ c.gosubs := by
  obtain ⟨met, v, scopes, frame, hruns, hv, hframe, hargs, htakes, hmet⟩ :=
    h.runs_of_call env hline hcount hbody hcalls hroom hguard
  obtain ⟨line, hreturn, hleave⟩ := hcalls.comesBack.exists_return
  obtain ⟨w, scopes', hstep, hargs', hw⟩ := hv.step_of_leave hreturn hleave hback
  have hsize : q + 1 ≤ p.lines.size := (Array.getElem?_eq_some_iff.mp hline).1
  rw [hframe, Nat.min_eq_left hsize] at hw
  have hnone : takes? env v = none :=
    takes?_eq_none env (hv.nextLine?.trans hreturn) (isLoneIfArgs_of_runsOn (.inr hleave))
  have hdeeper (u : Script) (hu : u.gosubs = frame :: c.gosubs) : u.gosubs ≠ c.gosubs :=
    hu ▸ List.cons_ne_self frame c.gosubs
  refine ⟨met ++ [v], w, scopes', hruns.append (.single hstep), hw, hargs'.trans hargs, ?_, ?_⟩
  · rw [List.filterMap_append, htakes, List.filterMap_cons_none hnone, List.filterMap_nil,
      List.append_nil]
  · refine List.forall_mem_append.mpr ⟨fun u hu => (hmet u hu).imp_right (hdeeper u), ?_⟩
    exact List.forall_mem_singleton.mpr (.inr (hdeeper v hv.gosubs))

end InFront

/-- Behind a call that comes back the rest of the family is tested anew. -/
theorem onlyTakes_cons_iff_of_call (env : Env) (h : InFront p q c s)
    (hline : p.lines[q]? = some l.line) (hcount : l.count ≤ c.scopes.args.length)
    (hbody : l.body = .gosub label args) (hcalls : CallsBack env p c.scopes label target)
    (hroom : c.gosubs.length < env.settings.maxGosubs) (hguard : c.watch.allows env = true)
    (hback : (c.watch.next env).allows env = true) (hne : q ≠ behind) :
    ∃ w scopes, InFront p (q + 1) ⟨scopes, (c.watch.next env).next env, c.gosubs⟩ w ∧
      scopes.args = c.scopes.args.drop (p.dropped target.line) ∧
      ∀ taken, OnlyTakes env s (q :: taken) behind ↔ OnlyTakes env w taken behind := by
  obtain ⟨met, w, scopes, hruns, hw, hargs, htakes, hmet⟩ :=
    h.runs_roundTrip env hline hcount hbody hcalls hroom hguard hback
  refine ⟨w, scopes, hw, hargs, fun taken => ?_⟩
  have hiff := onlyTakes_iff_of_runs taken hruns (hw.gosubs.trans h.gosubs.symm)
    fun u hu hstands => (hmet u hu).elim (fun hus => h.not_standsAt hne (hus ▸ hstands))
      fun hdeeper => hdeeper (hstands.gosubs.trans h.gosubs)
  rwa [htakes] at hiff

/-- A call one of whose jumps is not made ends the script within the family. -/
theorem not_onlyTakes_of_call (env : Env) (h : InFront p q c s) (hline : p.lines[q]? = some l.line)
    (hcount : l.count ≤ c.scopes.args.length) (hbody : l.body = .gosub label args)
    (hcalls : CallsBack env p c.scopes label target) (hne : q ≠ behind)
    (hnot : c.gosubs.length < env.settings.maxGosubs → c.watch.allows env = true →
      (c.watch.next env).allows env = false) :
    ¬ OnlyTakes env s taken behind := by
  by_cases hlet : c.gosubs.length < env.settings.maxGosubs ∧ c.watch.allows env = true
  · obtain ⟨met, v, scopes, frame, hruns, hv, -, -, -, hmet⟩ :=
      h.runs_of_call env hline hcount hbody hcalls hlet.1 hlet.2
    have hdeeper (u : Script) (hu : u.gosubs = frame :: c.gosubs) : ¬ StandsAt s behind u :=
      fun hstands =>
        List.cons_ne_self frame c.gosubs (hu.symm.trans (hstands.gosubs.trans h.gosubs))
    obtain ⟨line, hreturn, hleave⟩ := hcalls.comesBack.exists_return
    have hexit := (hv.atStatement line .leave).leave_of_not (hnot hlet.1 hlet.2)
    obtain ⟨t, hstep, ht⟩ := hv.step_of_exit hreturn hleave hexit
    refine not_onlyTakes_of_stops hruns (fun u hu => ?_) (hdeeper v hv.gosubs) hstep ht
    rcases hmet u hu with rfl | hgosubs
    · exact h.not_standsAt hne
    · exact hdeeper u hgosubs
  · obtain ⟨u, hu, hexecute⟩ := h.execute_of_taken env hline hcount
    have hexit : (execute env l.body u).1 = .exit := by
      rw [hbody]
      exact hu.gosub_of_not args hcalls.clear (hcalls.label?_labelName hu)
        fun hroom => Bool.eq_false_iff.mpr fun hguard => hlet ⟨hroom, hguard⟩
    obtain ⟨t, hstep, ht⟩ := h.step_of_exit hline l.reads (by rw [hexecute]; exact hexit)
    exact not_onlyTakes_of_stops (.nil s) (List.forall_mem_nil _) (h.not_standsAt hne) hstep ht

/-- **A call is the only one to run as long as both of its jumps are made and its subroutine leaves
too few arguments for the rest of the family, and no longer.** -/
theorem onlyTakes_iff_of_call (env : Env) (h : InFront p q c s)
    (hfrom : p.From q (l.line :: (after.map ArgsLine.line ++ rest)))
    (hcount : l.count ≤ c.scopes.args.length) (hbody : l.body = .gosub label args)
    (hcalls : CallsBack env p c.scopes label target) :
    OnlyTakes env s [q] (q + 1 + after.length) ↔ Undisturbed env p c target after := by
  have hne : q ≠ q + 1 + after.length := by omega
  by_cases hjumps : c.gosubs.length < env.settings.maxGosubs ∧ c.watch.allows env = true ∧
      (c.watch.next env).allows env = true
  · obtain ⟨hroom, hguard, hback⟩ := hjumps
    obtain ⟨w, scopes, hw, hargs, hiff⟩ := onlyTakes_cons_iff_of_call env h hfrom.head hcount
      hbody hcalls hroom hguard hback hne
    rw [hiff, onlyTakes_nil_iff env hw hfrom.tail]
    dsimp only
    rw [hargs, List.length_drop]
    exact ⟨fun hleaves => ⟨hroom, hguard, hback, hleaves⟩, Undisturbed.leaves⟩
  · refine iff_of_false ?_ fun h => hjumps ⟨h.room, h.calls, h.returns⟩
    refine not_onlyTakes_of_call env h hfrom.head hcount hbody hcalls hne fun hroom hguard => ?_
    exact Bool.eq_false_iff.mpr fun hback => hjumps ⟨hroom, hguard, hback⟩

/-! ## Families -/

/-- The body that is meant to run, of a family at a place: that of the first line for which there
are enough arguments. -/
def meant (q : Nat) (family : List ArgsLine) (args : List String) : List Nat :=
  ((family.findIdx? fun l => l.count ≤ args.length).map (q + ·)).toList

/-- What is left of a family from that line on. -/
def fromMeant (family : List ArgsLine) (args : List String) : List ArgsLine :=
  family.dropWhile fun l => args.length < l.count

theorem meant_cons_of_lt {args : List String} (h : args.length < l.count) :
    meant q (l :: family) args = meant (q + 1) family args := by
  rw [meant, meant, List.findIdx?_cons, if_neg (by simpa using h), Option.map_map]
  congr 2
  funext i
  show q + (i + 1) = q + 1 + i
  omega

theorem meant_cons_of_le {args : List String} (h : l.count ≤ args.length) :
    meant q (l :: family) args = [q] := by
  rw [meant, List.findIdx?_cons, if_pos (decide_eq_true h)]
  rfl

theorem fromMeant_cons_of_lt {args : List String} (h : args.length < l.count) :
    fromMeant (l :: family) args = fromMeant family args :=
  List.dropWhile_cons_of_pos (decide_eq_true h)

theorem fromMeant_cons_of_le {args : List String} (h : l.count ≤ args.length) :
    fromMeant (l :: family) args = l :: family :=
  List.dropWhile_cons_of_neg (by simpa using h)

theorem InFront.onlyTakes_meant_iff (env : Env) (h : InFront p q c s)
    (hfrom : p.From q (family.map ArgsLine.line ++ rest))
    (hrest : ∀ line ∈ rest.head?, Walk.isLoneIfArgs line = false)
    (hbodies : ∀ l ∈ family, l.body.isCommand = true ∨ ∃ label args target,
      l.body = .gosub label args ∧ CallsBack env p c.scopes label target) :
    OnlyTakes env s (meant q family c.scopes.args) (q + family.length) ↔
      ∀ l after label args target, fromMeant family c.scopes.args = l :: after →
        l.body = .gosub label args → CallsBack env p c.scopes label target →
        Undisturbed env p c target after := by
  induction family generalizing q s with
  | nil =>
    refine iff_of_true ((onlyTakes_nil_iff env h hfrom).mpr (List.forall_mem_nil _)) ?_
    intro l after _ _ _ hfirst
    exact absurd hfirst.symm (List.cons_ne_nil l after)
  | cons l family ih =>
    have hbehind : q + (l :: family).length = q + 1 + family.length := by
      rw [List.length_cons]
      omega
    rw [hbehind]
    obtain ⟨hbody, hbodies⟩ := List.forall_mem_cons.mp hbodies
    rcases Nat.lt_or_ge c.scopes.args.length l.count with hcount | hcount
    · obtain ⟨t, ht, hiff⟩ := onlyTakes_iff_of_untaken env (meant (q + 1) family c.scopes.args) h
        hfrom.head hcount (show q ≠ q + 1 + family.length by omega)
      rw [meant_cons_of_lt hcount, hiff, ih ht hfrom.tail hbodies, fromMeant_cons_of_lt hcount]
    · rw [meant_cons_of_le hcount, fromMeant_cons_of_le hcount]
      rcases hbody with hcommand | ⟨label, args, target, hgosub, hcalls⟩
      · refine iff_of_true (onlyTakes_of_command env h hfrom hrest hcount hcommand) ?_
        rintro _ _ label args target ⟨⟩ hgosub
        rw [hgosub] at hcommand
        cases hcommand
      · rw [onlyTakes_iff_of_call env h hfrom hcount hgosub hcalls]
        constructor
        · rintro hundisturbed _ _ label' args' target' ⟨⟩ hgosub' hcalls'
          cases hgosub.symm.trans hgosub'
          obtain rfl := Option.some.inj (hcalls.label.symm.trans hcalls'.label)
          exact hundisturbed
        · exact fun hall => hall l family label args target rfl hgosub hcalls

/-- **One body of a family runs.**  A running script comes to the first line of a family, whose
bodies are commands, or calls of subroutines that come back.  The body of the first line for which
there are enough arguments runs, and no other, and then the script stands behind the family, unless
that body is a call and is disturbed: there is no room for it, the loop guard stops the call or the
return, or there are enough arguments for another line when the subroutine has come back. -/
theorem onlyTakes_iff (env : Env) (s : Script) (family : List ArgsLine) (rest : List Line)
    (hphase : s.phase = .running)
    (hfrom : s.walk.program.From s.walk.next (family.map ArgsLine.line ++ rest))
    (hrest : ∀ line ∈ rest.head?, Walk.isLoneIfArgs line = false)
    (hbodies : ∀ l ∈ family, l.body.isCommand = true ∨ ∃ label args target,
      l.body = .gosub label args ∧ CallsBack env s.walk.program s.scopes label target) :
    OnlyTakes env s (meant s.walk.next family s.scopes.args) (s.walk.next + family.length) ↔
      ∀ l after label args target, fromMeant family s.scopes.args = l :: after →
        l.body = .gosub label args → CallsBack env s.walk.program s.scopes label target →
        Undisturbed env s.walk.program s.situation target after :=
  (inFront hphase).onlyTakes_meant_iff env hfrom hrest hbodies

/-- Two lines of which the first calls the subroutine `sub`. -/
def sorting : List ArgsLine :=
  [⟨.ofText "sorter" 1 "if_2 then gosub sub", 2, .gosub "sub" "", by decide +kernel⟩,
    ⟨.ofText "sorter" 2 "if_1 then echo one", 1, .echo "one", by decide +kernel⟩]

/-- The lines behind them, with certain lines in the subroutine. -/
def sorterRest (inner : List String) : List Line :=
  (["echo end", "exit", "sub:"] ++ inner ++ ["return"]).mapIdx fun i text =>
    .ofText "sorter" (i + 3) text

/-- A script of all these lines that has been started with two arguments. -/
def sorter (inner : List String) : Script :=
  begun ["a", "b"] (ofProgram
    { name := "sorter", lines := (sorting.map ArgsLine.line ++ sorterRest inner).toArray } {})

theorem from_sorter (inner : List String) :
    (sorter inner).walk.program.From 0 (sorting.map ArgsLine.line ++ sorterRest inner) :=
  rfl

theorem head?_sorterRest (inner : List String) :
    ∀ line ∈ (sorterRest inner).head?, Walk.isLoneIfArgs line = false := by
  have hhead : (sorterRest inner).head? = some (.ofText "sorter" 3 "echo end") := by
    rw [sorterRest, List.append_assoc, List.cons_append, List.mapIdx_cons, List.head?_cons]
  rw [hhead]
  rintro _ ⟨⟩
  decide +kernel

theorem callsBack_sorter {inner : List String}
    (hlabel : (sorter inner).walk.program.label? "sub" = some ⟨4, "sorter"⟩)
    (hback : (sorter inner).walk.program.ComesBack 4) :
    CallsBack {} (sorter inner).walk.program (sorter inner).scopes "sub" ⟨4, "sorter"⟩ := by
  have hname : (sorter inner).scopes.substitute .empty "sub" = "sub" :=
    substitute_of_isPlain (sorter inner) {} (by decide)
  refine ⟨by decide, ?_, hback⟩
  rw [hname]
  exact hlabel

/-- A subroutine that drops both arguments leaves none for the other line. -/
theorem onlyTakes_sorter_shifting :
    let s := sorter ["shift", "shift"]
    CallsBack {} s.walk.program s.scopes "sub" ⟨4, "sorter"⟩ ∧ OnlyTakes {} s [0] 2 := by
  intro s
  have hcalls : CallsBack {} s.walk.program s.scopes "sub" ⟨4, "sorter"⟩ :=
    callsBack_sorter (by decide +kernel) ⟨by decide +kernel, by decide +kernel⟩
  have hbodies : ∀ l ∈ sorting, l.body.isCommand = true ∨ ∃ label args target,
      l.body = .gosub label args ∧ CallsBack {} s.walk.program s.scopes label target :=
    List.forall_mem_cons.mpr ⟨.inr ⟨"sub", "", ⟨4, "sorter"⟩, rfl, hcalls⟩,
      List.forall_mem_singleton.mpr (.inl rfl)⟩
  refine ⟨hcalls, (onlyTakes_iff {} s sorting (sorterRest ["shift", "shift"]) rfl (from_sorter _)
    (head?_sorterRest _) hbodies).mpr ?_⟩
  rintro l after label args target hfirst hgosub hcalls'
  obtain ⟨rfl, rfl⟩ := List.cons.inj (show sorting = l :: after from hfirst)
  obtain ⟨rfl, -⟩ := Statement.gosub.inj hgosub
  obtain rfl := Option.some.inj (hcalls.label.symm.trans hcalls'.label)
  exact ⟨by decide, by decide, by decide,
    List.forall_mem_singleton.mpr (show 2 - _ < 1 by decide +kernel)⟩

/-- **Two bodies of a family run.**  A subroutine that only echoes comes back with both arguments,
and the line below the call is tested as if no body had run. -/
theorem onlyTakes_sorter_echoing :
    let s := sorter ["echo sub"]
    CallsBack {} s.walk.program s.scopes "sub" ⟨4, "sorter"⟩ ∧
      meant 0 sorting s.scopes.args = [0] ∧ ¬ OnlyTakes {} s [0] 2 ∧ OnlyTakes {} s [0, 1] 2 := by
  intro s
  have hcalls : CallsBack {} s.walk.program s.scopes "sub" ⟨4, "sorter"⟩ :=
    callsBack_sorter (by decide +kernel) ⟨by decide +kernel, by decide +kernel⟩
  have hfront : InFront s.walk.program 0 s.situation s := inFront rfl
  have hfrom := from_sorter ["echo sub"]
  have hcount : 2 ≤ s.scopes.args.length := by decide
  refine ⟨hcalls, rfl, fun honly => ?_, ?_⟩
  · have hundisturbed := (onlyTakes_iff_of_call {} hfront hfrom hcount rfl hcalls).mp honly
    have hleaves := hundisturbed.leaves _ (List.mem_singleton.mpr rfl)
    exact absurd hleaves (show ¬ 2 - _ < 1 by decide +kernel)
  · obtain ⟨w, scopes, hw, hargs, hiff⟩ := onlyTakes_cons_iff_of_call {} hfront hfrom.head hcount
      rfl hcalls (by decide) (by decide) (by decide) (show 0 ≠ 2 by decide)
    have hleft : scopes.args = ["a", "b"] := hargs.trans (by decide +kernel)
    have hcount' : 1 ≤ scopes.args.length := by
      rw [hleft]
      decide
    have hecho : OnlyTakes {} w [1] (1 + 1 + ([] : List ArgsLine).length) :=
      onlyTakes_of_command {} hw hfrom.tail (head?_sorterRest _) hcount' rfl
    exact (hiff [1]).mpr hecho

end Script

end StreamScript
