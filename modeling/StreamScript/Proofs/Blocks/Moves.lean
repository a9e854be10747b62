import StreamScript.Proofs.Blocks.Lines
import StreamScript.Proofs.LoopBound

/-!
# From line to line

`Goes` says that a script at one place runs to another, and that the statements
it carries out on the way are those by which one `Outcome` differs from the other
(`Records`).
It does not mention states, so that runs through a body can be put together from
runs through its parts.  Here are the runs of a single line, one for every kind of
line and for every way it can turn out.

A part of a chain is carried out when no branch of the chain has run (`Entered`),
and else it is passed over.  What a part finds open depends on its lead only
(`Lead.finds`).
-/

namespace StreamScript

open Layout

namespace Layout

/-- The open conditionals as a part finds them. -/
def Lead.finds (p : Program) : Lead → List Frame → List Frame
  | .own, fs => fs
  | _, fs => p.unpend fs

end Layout

namespace Script

variable {env : Env} {p : Program} {lead : Lead} {i q q' q'' d : Nat}
  {fs fs' fs'' base : List Frame} {v : View} {o o' o'' : Outcome} {rest : List Line}

/-! ## From place to place -/

/-- One outcome differs from another by what the lines in front of some states carry out, and the
first of these lines that never ends is the one in which it is stuck. -/
structure Records (env : Env) (o : Outcome) (met : List Script) (o' : Outcome) : Prop where
  trail : o'.trail = o.trail ++ met.flatMap carried
  stuck? : o'.stuck? = o.stuck?.or (met.findSome? (Script.stuck? env))

namespace Records

theorem nil (env : Env) (o : Outcome) : Records env o [] o :=
  ⟨(List.append_nil _).symm, Option.or_none.symm⟩

theorem append {met met' : List Script} (h : Records env o met o') (h' : Records env o' met' o'') :
    Records env o (met ++ met') o'' where
  trail := by rw [h'.trail, h.trail, List.flatMap_append, List.append_assoc]
  stuck? := by rw [h'.stuck?, h.stuck?, List.findSome?_append, Option.or_assoc]

/-- A line that carries out a statement. -/
theorem carry {s : Script} (h : At p q fs o.view s) {statement? : Option Statement}
    (hcarried : s.carried = [statement?])
    (hends : s.lineEnds env = statement?.all (·.endsIn env o.view)) (v : View) :
    Records env o [s] (o.carry env statement? v) where
  trail := by rw [List.flatMap_singleton, hcarried]; rfl
  stuck? := by
    rw [List.findSome?_singleton, Script.stuck?, hends, h.view]
    rfl

/-- A line that carries out none. -/
theorem skip {s : Script} (o : Outcome) (hcarried : s.carried = [])
    (hends : s.lineEnds env = true) : Records env o [s] o where
  trail := by rw [List.flatMap_singleton, hcarried, List.append_nil]
  stuck? := by rw [List.findSome?_singleton, Script.stuck?, hends, if_pos rfl, Option.or_none]

end Records

/-- A script runs from one place to another and carries out the statements by which two outcomes
differ.  Each line takes it further on. -/
def Goes (env : Env) (p : Program) (o : Outcome) (q : Nat) (fs : List Frame) (o' : Outcome)
    (q' : Nat) (fs' : List Frame) : Prop :=
  ∀ s, At p q fs o.view s → ∃ met t, Runs env s met t ∧ At p q' fs' o'.view t ∧
    Records env o met o' ∧ q + met.length ≤ q'

namespace Goes

theorem refl : Goes env p o q fs o q fs :=
  fun s hs => ⟨[], s, .nil s, hs, .nil env o, Nat.le_refl q⟩

theorem trans (h : Goes env p o q fs o' q' fs') (h' : Goes env p o' q' fs' o'' q'' fs'') :
    Goes env p o q fs o'' q'' fs'' := by
  intro s hs
  obtain ⟨met, t, hruns, ht, hrecords, hlen⟩ := h s hs
  obtain ⟨met', u, hruns', hu, hrecords', hlen'⟩ := h' t ht
  refine ⟨met ++ met', u, hruns.append hruns', hu, hrecords.append hrecords', ?_⟩
  rw [List.length_append]
  omega

/-- One line is enough to say how a script goes on. -/
theorem of_step (hlt : q < q') (h : ∀ s, At p q fs o.view s → ∃ t, step env s = .again t ∧
    At p q' fs' o'.view t ∧ Records env o [s] o') : Goes env p o q fs o' q' fs' := by
  intro s hs
  obtain ⟨t, hstep, ht, hrecords⟩ := h s hs
  exact ⟨[s], t, .single hstep, ht, hrecords, hlt⟩

end Goes

theorem seen_eq_finds {line : Line} {statement : Statement}
    (h : lead.Introduces statement line) (fs : List Frame) :
    seen p line statement fs = lead.finds p fs := by
  cases lead with
  | first => rw [seen, show statement.isElse = false from h]; rfl
  | own => rw [seen, h.1, h.2]; rfl
  | joined => rw [seen, h.1, h.2]; rfl

/-- A part of a chain in which no branch has run is carried out. -/
theorem At.carried_of_entered {s : Script} {line : Line} {statement : Statement}
    (h : At p i fs v s) (hline : p.lines[i]? = some line) (hs : line.statement? = some statement)
    (hbrace : statement ≠ .rightBrace) (hlead : lead.Introduces statement line)
    (hentered : Entered lead (lead.finds p fs) base) : s.carried = [some statement] := by
  rw [h.carried_eq hline hs hbrace, seen_eq_finds hlead]
  cases lead with
  | first => rw [show statement.isElse = false from hlead]; rfl
  | own | joined =>
    obtain ⟨top, hfinds, htop⟩ := hentered
    rw [hfinds, List.head?_cons, Option.any_some, htop, Bool.and_false]
    rfl

/-- A part of a chain in which a branch has run is not. -/
theorem At.carried_of_satisfied {s : Script} {line : Line} {statement : Statement} {top : Frame}
    (h : At p i fs v s) (hline : p.lines[i]? = some line) (hs : line.statement? = some statement)
    (hbrace : statement ≠ .rightBrace) (hlead : lead.Introduces statement line)
    (hfirst : lead ≠ .first) (hfinds : lead.finds p fs = top :: base)
    (htop : top.satisfied = true) : s.carried = [] := by
  rw [h.carried_eq hline hs hbrace, seen_eq_finds hlead, hfinds, List.head?_cons,
    Option.any_some, htop]
  cases lead with
  | first => exact absurd rfl hfirst
  | own | joined => rw [hlead.1]; rfl

/-! ## Lines of a body -/

theorem goes_plain (env : Env) (o : Outcome) (fs : List Frame) (l : PlainLine)
    (hfrom : p.From i (l.line :: rest))
    (hdirect : l.line.statement?.all Statement.isDirect = true) :
    ∃ fs', (fs' = fs ∨ fs' = p.unpend fs) ∧
      Goes env p o i fs (o.carry env l.line.statement? (l.perform env o.view)) (i + 1) fs' := by
  cases hs : l.line.statement? with
  | none =>
    have hperform : l.perform env o.view = o.view := by rw [PlainLine.perform, hs]
    refine ⟨fs, .inl rfl, .of_step (Nat.lt_succ_self i) fun s h => ?_⟩
    obtain ⟨t, hstep, ht⟩ := h.step_of_none hfrom.head hs
    refine ⟨t, hstep, ?_, .carry h (h.carried_of_none hfrom.head hs)
      (lineEnds_of_no_statement env (h.nextLine?.trans hfrom.head) hs) _⟩
    rw [hperform]
    exact ht
  | some statement =>
    have hlayout := l.plain statement hs
    have helse := Statement.isElse_of_not_isLayout hlayout
    have hbrace : statement ≠ .rightBrace := by
      rintro rfl
      cases hlayout
    have hperform : l.perform env o.view = statement.perform env o.view := by
      rw [PlainLine.perform, hs]
    rw [hs, Option.all_some] at hdirect
    refine ⟨p.unpend fs, .inr rfl, .of_step (Nat.lt_succ_self i) fun s h => ?_⟩
    obtain ⟨t, hstep, ht⟩ := h.step_of_isDirect hfrom.head hs hdirect helse
    refine ⟨t, hstep, ?_, .carry h ?_ ?_ _⟩
    · rw [hperform]
      exact ht
    · rw [h.carried_eq hfrom.head hs hbrace, helse]
      rfl
    · rw [h.lineEnds_eq env hfrom.head hs,
        ends_of_steers env (Statement.steers_of_isDirect hdirect),
        (h.atStatement l.line statement).scopes, Option.all_some,
        Statement.endsIn_of_isDirect env hdirect]

/-- A brace behind a branch that has run. -/
theorem goes_close {top : Frame} (close : Closing) (hfrom : p.From i (close.line :: rest))
    (hfs : p.unpend fs = top :: base) (htop : top.satisfied = true) (hlt : i < q')
    (hskip : Walk.skipChain ⟨p, i + 1, base⟩ = (true, ⟨p, q', base⟩)) :
    Goes env p o i fs o.closed q' base := by
  refine .of_step hlt fun s h => ?_
  have hat := h.atStatement close.line .rightBrace
  rw [seen, show (!Statement.isElse .rightBrace || close.line.closesBlock) = true from rfl,
    if_pos rfl, hfs] at hat
  obtain ⟨t, hproceed, ht⟩ := hat.proceed_rightBrace env htop hskip
  have hrecords : Records env o [s] o :=
    .skip o (h.carried_of_rightBrace hfrom.head close.reads)
      (h.lineEnds_eq env hfrom.head close.reads)
  refine ⟨t, ?_, ht, hrecords.trail, hrecords.stuck?⟩
  rw [h.step_eq hfrom.head close.reads, hproceed]

/-! ## Parts with a block -/

section Opening

variable (op : Opening lead)

theorem introduces_opening : lead.Introduces (.block op.head (placeOf op.below?)) op.line :=
  op.fits.introduces (Statement.isElse_block _ _)

/-- The line of a part with a block, in a chain in which no branch has run. -/
theorem At.step_opening (env : Env) {s : Script} (h : At p i fs v s)
    (hfrom : p.From i (op.lines ++ rest)) (hentered : Entered lead (lead.finds p fs) base) :
    s.carried = [op.line.statement?] ∧
      s.lineEnds env = op.line.statement?.all (·.endsIn env v) ∧ ∃ t,
      step env s = proceed (if (op.head.test env v).1 then .next else .skipBlock, t) ∧
      At p (i + op.lines.length) (⟨i, (op.head.test env v).1⟩ :: base)
        (op.head.test env v).2 t := by
  have hline := Program.From.head hfrom
  have hidx := h.index?_atStatement hline (.block op.head (placeOf op.below?))
  have hat := h.atStatement op.line (.block op.head (placeOf op.below?))
  rw [seen_eq_finds (introduces_opening op)] at hat
  obtain ⟨t, hexec, ht⟩ := hat.execute_opening env op hidx hfrom.tail hentered
  refine ⟨?_, ?_, t, by rw [h.step_eq hline op.reads, hexec], ht⟩
  · rw [op.reads]
    exact h.carried_of_entered hline op.reads (by simp) (introduces_opening op) hentered
  · rw [h.lineEnds_eq env hline op.reads, hat.ends_opening env op hidx hfrom.tail,
      hat.tests_of_entered op.fits hentered, op.reads]
    rfl

theorem goes_opening (hfrom : p.From i (op.lines ++ rest))
    (hentered : Entered lead (lead.finds p fs) base) (htest : op.head.test env o.view = (true, v)) :
    Goes env p o i fs (o.carry env op.line.statement? v) (i + op.lines.length)
      (⟨i, true⟩ :: base) := by
  refine .of_step (by rw [op.length_lines]; omega) fun s h => ?_
  obtain ⟨hcarried, hends, t, hstep, ht⟩ := h.step_opening op env hfrom hentered
  rw [htest] at hstep ht
  exact ⟨t, hstep, ht, .carry h hcarried hends v⟩

/-- A block that is not entered, and is closed on a line of its own. -/
theorem goes_opening_close (body : Body) (close : Closing)
    (hfrom : p.From i (op.lines ++ (body.lines ++ close.line :: rest)))
    (hentered : Entered lead (lead.finds p fs) base) (htest : op.head.test env o.view = (false, v))
    (hq : q = i + op.lines.length + body.lines.length + 1) :
    Goes env p o i fs (o.carry env op.line.statement? v).opened q
      (if p.isElseAt q then ⟨i, false⟩ :: base else base) := by
  refine .of_step (by omega) fun s h => ?_
  obtain ⟨hcarried, hends, t, hstep, ht⟩ := h.step_opening op env hfrom hentered
  rw [htest] at hstep ht
  have hskip := skipBlock_of_close (⟨i, false⟩ :: base) [] body close
    (by simp) hfrom.append
  obtain ⟨u, hproceed, hu⟩ := ht.proceed_of_brace hskip
  have hrecords := Records.carry h hcarried hends v
  refine ⟨u, hstep.trans hproceed, ?_, hrecords.trail, hrecords.stuck?⟩
  rw [hq]
  exact hu

/-- A block that is not entered, and is closed by the next part. -/
theorem goes_opening_joined (body : Body) (next : Chain .joined)
    (hfrom : p.From i (op.lines ++ (body.lines ++ (next.lines ++ rest))))
    (hentered : Entered lead (lead.finds p fs) base)
    (htest : op.head.test env o.view = (false, v)) :
    Goes env p o i fs (o.carry env op.line.statement? v).opened
      (i + op.lines.length + body.lines.length) (⟨i, false⟩ :: base) := by
  refine .of_step (by rw [op.length_lines]; omega) fun s h => ?_
  obtain ⟨hcarried, hends, t, hstep, ht⟩ := h.step_opening op env hfrom hentered
  rw [htest] at hstep ht
  have hskip := skipBlock_of_joined (⟨i, false⟩ :: base) [] body next
    (by simp) hfrom.append
  obtain ⟨u, hproceed, hu⟩ := ht.proceed_of_sibling hskip
  have hrecords := Records.carry h hcarried hends v
  exact ⟨u, hstep.trans hproceed, hu, hrecords.trail, hrecords.stuck?⟩

/-- The line of a part with a block, in a chain in which a branch has run. -/
theorem At.step_opening_of_satisfied (env : Env) {s : Script} {top : Frame} (h : At p i fs v s)
    (hfrom : p.From i (op.lines ++ rest)) (hfirst : lead ≠ .first)
    (hfinds : lead.finds p fs = top :: base) (htop : top.satisfied = true) :
    s.carried = [] ∧ s.lineEnds env = true ∧ ∃ t, step env s = proceed (.skipBlock, t) ∧
      At p (i + op.lines.length) (⟨i, true⟩ :: base) v t := by
  have hline := Program.From.head hfrom
  have hidx := h.index?_atStatement hline (.block op.head (placeOf op.below?))
  have hat := h.atStatement op.line (.block op.head (placeOf op.below?))
  rw [seen_eq_finds (introduces_opening op), hfinds] at hat
  obtain ⟨t, hexec, ht⟩ := hat.execute_opening_of_satisfied env op hidx hfrom.tail hfirst htop
  refine ⟨?_, ?_, t, by rw [h.step_eq hline op.reads, hexec], ht⟩
  · exact h.carried_of_satisfied hline op.reads (by simp) (introduces_opening op) hfirst hfinds
      htop
  · rw [h.lineEnds_eq env hline op.reads, hat.ends_opening env op hidx hfrom.tail,
      hat.tests_of_satisfied op.fits hfirst htop]
    rfl

theorem goes_satisfied_close (env : Env) (o : Outcome) {top : Frame} (body : Body) (close : Closing)
    (hfrom : p.From i (op.lines ++ (body.lines ++ close.line :: rest))) (hfirst : lead ≠ .first)
    (hfinds : lead.finds p fs = top :: base) (htop : top.satisfied = true)
    (hq : q = i + op.lines.length + body.lines.length + 1) :
    Goes env p o i fs o q (if p.isElseAt q then ⟨i, true⟩ :: base else base) := by
  refine .of_step (by omega) fun s h => ?_
  obtain ⟨hcarried, hends, t, hstep, ht⟩ :=
    h.step_opening_of_satisfied op env hfrom hfirst hfinds htop
  have hskip := skipBlock_of_close (⟨i, true⟩ :: base) [] body close
    (by simp) hfrom.append
  obtain ⟨u, hproceed, hu⟩ := ht.proceed_of_brace hskip
  refine ⟨u, hstep.trans hproceed, ?_, .skip o hcarried hends⟩
  rw [hq]
  exact hu

theorem goes_satisfied_joined (env : Env) (o : Outcome) {top : Frame} (body : Body)
    (next : Chain .joined)
    (hfrom : p.From i (op.lines ++ (body.lines ++ (next.lines ++ rest)))) (hfirst : lead ≠ .first)
    (hfinds : lead.finds p fs = top :: base) (htop : top.satisfied = true) :
    Goes env p o i fs o (i + op.lines.length + body.lines.length) (⟨i, true⟩ :: base) := by
  refine .of_step (by rw [op.length_lines]; omega) fun s h => ?_
  obtain ⟨hcarried, hends, t, hstep, ht⟩ :=
    h.step_opening_of_satisfied op env hfrom hfirst hfinds htop
  have hskip := skipBlock_of_joined (⟨i, true⟩ :: base) [] body next
    (by simp) hfrom.append
  obtain ⟨u, hproceed, hu⟩ := ht.proceed_of_sibling hskip
  exact ⟨u, hstep.trans hproceed, hu, .skip o hcarried hends⟩

end Opening

/-! ## Parts on one line -/

section OneLine

variable (l : OneLine lead)

theorem introduces_oneLine : lead.Introduces (.single l.head l.body) l.line :=
  l.fits.introduces (Statement.isElse_single _ _)

theorem At.enterSingle_atStatement (env : Env) {s : Script} (h : At p i fs v s)
    (hentered : Entered lead (lead.finds p fs) base) :
    ∃ t, Script.enterSingle env l.head i (s.atStatement l.line (.single l.head l.body)) =
        ((l.head.test env v).1, t) ∧
      At p (i + 1) (⟨i, (l.head.test env v).1⟩ :: base) (l.head.test env v).2 t := by
  have hat := h.atStatement l.line (.single l.head l.body)
  rw [seen_eq_finds (introduces_oneLine l)] at hat
  exact hat.enterSingle l hentered

/-- A part on one line, in a chain in which no branch has run, tests its head. -/
theorem At.lineEnds_oneLine {s t : Script} {holds : Bool} (h : At p i fs v s)
    (hline : p.lines[i]? = some l.line) (hentered : Entered lead (lead.finds p fs) base)
    (henter : Script.enterSingle env l.head i
      (s.atStatement l.line (.single l.head l.body)) = (holds, t)) :
    s.lineEnds env = (l.head.ends env v.scopes && (!holds || ends env l.body t)) := by
  have hidx := h.index?_atStatement hline (.single l.head l.body)
  have hat := h.atStatement l.line (.single l.head l.body)
  rw [seen_eq_finds (introduces_oneLine l)] at hat
  rw [h.lineEnds_eq env hline l.reads, hat.ends_oneLine l hidx henter,
    hat.tests_of_entered l.fits hentered]
  rfl

/-- A part on one line whose body runs. -/
theorem goes_single (hdirect : l.body.isDirect = true) (hhead : l.head.countsArgs = false)
    (hfrom : p.From i (l.line :: rest)) (hentered : Entered lead (lead.finds p fs) base)
    (htest : l.head.test env o.view = (true, v)) :
    Goes env p o i fs (o.carry env l.line.statement? (l.body.perform env v))
      (Walk.skipElses ⟨p, i + 1, ⟨i, true⟩ :: base⟩).next (⟨i, true⟩ :: base) := by
  have hlt : i + 1 ≤ (Walk.skipElses ⟨p, i + 1, ⟨i, true⟩ :: base⟩).next :=
    Walk.next_le_skipWhile Walk.isLoneElse ⟨p, i + 1, ⟨i, true⟩ :: base⟩
  refine .of_step hlt fun s h => ?_
  obtain ⟨t, henter, ht⟩ := h.enterSingle_atStatement l env hentered
  rw [htest] at henter ht
  obtain ⟨u, hexec, hu⟩ := At.execute_single hdirect hhead
    (h.index?_atStatement hfrom.head _) henter ht
  refine ⟨u, ?_, hu, .carry h ?_ ?_ _⟩
  · rw [h.step_eq hfrom.head l.reads, hexec, proceed]
  · rw [h.carried_of_entered hfrom.head l.reads (by simp) (introduces_oneLine l) hentered, l.reads]
  · rw [h.lineEnds_oneLine l hfrom.head hentered henter,
      ends_of_steers env (Statement.steers_of_isDirect hdirect), ht.scopes, l.reads,
      Option.all_some, Statement.endsIn, htest, Statement.endsIn_of_isDirect env hdirect]

/-- A part on one line whose body does not run. -/
theorem goes_single_of_false (hfrom : p.From i (l.line :: rest))
    (hentered : Entered lead (lead.finds p fs) base)
    (htest : l.head.test env o.view = (false, v)) :
    Goes env p o i fs (o.carry env l.line.statement? v) (i + 1) (⟨i, false⟩ :: base) := by
  refine .of_step (Nat.lt_succ_self i) fun s h => ?_
  obtain ⟨t, henter, ht⟩ := h.enterSingle_atStatement l env hentered
  rw [htest] at henter ht
  refine ⟨t, ?_, ht, .carry h ?_ ?_ _⟩
  · rw [h.step_eq hfrom.head l.reads,
      execute_single_of_false (h.index?_atStatement hfrom.head _) henter, proceed]
  · rw [h.carried_of_entered hfrom.head l.reads (by simp) (introduces_oneLine l) hentered, l.reads]
  · rw [h.lineEnds_oneLine l hfrom.head hentered henter, l.reads, Option.all_some,
      Statement.endsIn, htest]
    rfl

theorem goes_single_of_satisfied (env : Env) (o : Outcome) {top : Frame}
    (hfrom : p.From i (l.line :: rest))
    (hfirst : lead ≠ .first) (hfinds : lead.finds p fs = top :: base)
    (htop : top.satisfied = true) : Goes env p o i fs o (i + 1) (⟨i, true⟩ :: base) := by
  refine .of_step (Nat.lt_succ_self i) fun s h => ?_
  have hat := h.atStatement l.line (.single l.head l.body)
  rw [seen_eq_finds (introduces_oneLine l), hfinds] at hat
  obtain ⟨t, henter, ht⟩ := hat.enterSingle_of_satisfied env l hfirst htop
  have hidx := h.index?_atStatement hfrom.head (.single l.head l.body)
  refine ⟨t, ?_, ht, .skip o ?_ ?_⟩
  · rw [h.step_eq hfrom.head l.reads, execute_single_of_false hidx henter, proceed]
  · exact h.carried_of_satisfied hfrom.head l.reads (by simp) (introduces_oneLine l) hfirst hfinds
      htop
  · rw [h.lineEnds_eq env hfrom.head l.reads, hat.ends_oneLine l hidx henter,
      hat.tests_of_satisfied l.fits hfirst htop]
    rfl

end OneLine

end Script

end StreamScript
