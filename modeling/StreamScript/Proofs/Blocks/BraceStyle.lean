import StreamScript.Proofs.Blocks.Conditionals
import StreamScript.Proofs.Blocks.JoinedLines

/-!
# Where the brace of a block stands

The brace that closes a block may stand on a line of its own, or at the front of
the line with the next part of the chain.  One expects that this makes no
difference, and `joined_trail_eq_iff` says when it does: some branch that runs, and
is closed by the next part, ends with a conditional none of whose branches runs
(`Body.isSettled`).  The script then takes the next part for one of the conditional
that has just been passed over, and tries it although a branch of its own chain has
run.

A script and the same script with some braces joined are compared by the
statements they carry out.  As long as no branch is left open, they carry out the
same; and where the first branch is left open the joined one carries out an `else`,
while the other goes on behind the chain (`Diverges`).
-/

namespace StreamScript

open Text Layout

/-! ## Joining lines -/

/-- A line, and the same line with the brace that closes the block before it. -/
def Line.Joins (own joined : Line) : Prop :=
  (∀ c, own.text.toList.head? = some c → isBlank c = false) ∧
    ∃ blanks, (∀ c ∈ blanks, isBlank c = true) ∧
      joined.text.toList = '\x7d' :: (blanks ++ own.text.toList)

theorem Line.Joins.statement? {own joined : Line} {s : Statement} (h : own.Joins joined)
    (hs : own.statement? = some s) (helse : s.isElse = true) (hcloses : own.closesBlock = false) :
    joined.statement? = some s := by
  obtain ⟨hstart, blanks, hblanks, htext⟩ := h
  rw [own.statement?_eq, Statement.read?] at hs
  rw [joined.statement?_eq, Statement.read?, htext]
  refine Statement.readChars?_joined hblanks hstart ?_ hs helse
  rw [Line.closesBlock] at hcloses
  simpa using hcloses

namespace Layout

/-- How the line of a part is written anew: as it was, or behind the brace. -/
def Restyled : Lead → Lead → Line → Line → Prop
  | .own, .joined, l, l' => l.Joins l'
  | lead, lead', l, l' => lead = lead' ∧ l'.text = l.text

theorem Restyled.statement? {lead lead' : Lead} {l l' : Line} {s : Statement}
    (h : Restyled lead lead' l l') (hs : l.statement? = some s) (hlead : lead.Introduces s l) :
    l'.statement? = some s := by
  cases lead with
  | first => cases lead' <;> exact (Line.statement?_of_text h.2).trans hs
  | joined => cases lead' <;> exact (Line.statement?_of_text h.2).trans hs
  | own =>
    cases lead' with
    | first | own => exact (Line.statement?_of_text h.2).trans hs
    | joined => exact Line.Joins.statement? h hs hlead.1 hlead.2

mutual

/-- A body in which every part stands on a line of its own, and the same body with some of the
closing braces joined to the lines below them.  What stands on the lines with nothing but a brace
is not compared. -/
inductive Body.Joins : Body → Body → Prop where
  | nil : Body.Joins .nil .nil
  | plain {l l' : PlainLine} {rest rest' : Body} (h : l'.line.text = l.line.text)
      (hrest : Body.Joins rest rest') : Body.Joins (.plain l rest) (.plain l' rest')
  | chain {c c' : Chain .first} {rest rest' : Body} (h : Chain.Joins c c')
      (hrest : Body.Joins rest rest') : Body.Joins (.chain c rest) (.chain c' rest')

/-- The same for chains. -/
inductive Chain.Joins : {lead lead' : Lead} → Chain lead → Chain lead' → Prop where
  | stop : Chain.Joins .stop .stop
  | single {lead lead' : Lead} {l : OneLine lead} {l' : OneLine lead'} {next next' : Chain .own}
      (h : Restyled lead lead' l.line l'.line) (hnext : Chain.Joins next next') :
      Chain.Joins (.single l next) (.single l' next')
  | block {lead lead' : Lead} {o : Opening lead} {o' : Opening lead'} {body body' : Body}
      {close close' : Closing} {next next' : Chain .own}
      (h : Restyled lead lead' o.line o'.line) (hbody : Body.Joins body body')
      (hnext : Chain.Joins next next') :
      Chain.Joins (.block o body close next) (.block o' body' close' next')
  | joined {lead lead' : Lead} {o : Opening lead} {o' : Opening lead'} {body body' : Body}
      {close : Closing} {next : Chain .own} {next' : Chain .joined}
      (h : Restyled lead lead' o.line o'.line) (hbody : Body.Joins body body')
      (hnext : Chain.Joins next next') :
      Chain.Joins (.block o body close next) (.joined o' body' next')

end

mutual

theorem Body.Joins.isParted {b b' : Body} : b.Joins b' → b.isParted = true
  | .nil => rfl
  | .plain _ hrest => by rw [Body.isParted]; exact hrest.isParted
  | .chain h hrest => by rw [Body.isParted, h.isParted, hrest.isParted]; rfl

theorem Chain.Joins.isParted {lead lead' : Lead} {c : Chain lead} {c' : Chain lead'} :
    c.Joins c' → c.isParted = true
  | .stop => rfl
  | .single _ hnext => by rw [Chain.isParted]; exact hnext.isParted
  | .block _ hbody hnext => by rw [Chain.isParted, hbody.isParted, hnext.isParted]; rfl
  | .joined _ hbody hnext => by rw [Chain.isParted, hbody.isParted, hnext.isParted]; rfl

end

theorem Restyled.opening {lead lead' : Lead} {o : Opening lead} {o' : Opening lead'}
    (h : Restyled lead lead' o.line o'.line) :
    o'.line.statement? = o.line.statement? ∧ o'.head = o.head := by
  have hs := h.statement? o.reads (o.fits.introduces (Statement.isElse_block _ _))
  refine ⟨hs.trans o.reads.symm, ?_⟩
  rw [o'.reads, Option.some.injEq, Statement.block.injEq] at hs
  exact hs.1

theorem Restyled.oneLine {lead lead' : Lead} {l : OneLine lead} {l' : OneLine lead'}
    (h : Restyled lead lead' l.line l'.line) :
    l'.line.statement? = l.line.statement? ∧ l'.head = l.head ∧ l'.body = l.body := by
  have hs := h.statement? l.reads (l.fits.introduces (Statement.isElse_single _ _))
  refine ⟨hs.trans l.reads.symm, ?_⟩
  rw [l'.reads, Option.some.injEq, Statement.single.injEq] at hs
  exact hs

theorem PlainLine.perform_of_text {l l' : PlainLine} (h : l'.line.text = l.line.text) (env : Env)
    (v : View) : l'.perform env v = l.perform env v := by
  rw [PlainLine.perform, PlainLine.perform, Line.statement?_of_text h]

mutual

theorem Body.Joins.isDirect {b b' : Body} : b.Joins b' → b'.isDirect = b.isDirect
  | .nil => rfl
  | .plain h hrest => by
    rw [Body.isDirect, Body.isDirect, Line.statement?_of_text h, hrest.isDirect]
  | .chain h hrest => by rw [Body.isDirect, Body.isDirect, h.isDirect, hrest.isDirect]

theorem Chain.Joins.isDirect {lead lead' : Lead} {c : Chain lead} {c' : Chain lead'} :
    c.Joins c' → c'.isDirect = c.isDirect
  | .stop => rfl
  | .single h hnext => by
    obtain ⟨-, hhead, hbody⟩ := h.oneLine
    rw [Chain.isDirect, Chain.isDirect, hhead, hbody, hnext.isDirect]
  | .block _ hbody hnext => by
    rw [Chain.isDirect, Chain.isDirect, hbody.isDirect, hnext.isDirect]
  | .joined _ hbody hnext => by
    rw [Chain.isDirect, Chain.isDirect, hbody.isDirect, hnext.isDirect]

end

/-! ## When nothing is left open -/

mutual

/-- Whether no branch that runs, and is closed by the next part of its chain, ends with a chain none
of whose parts runs. -/
def Body.isSettled (env : Env) : Body → Outcome → Bool
  | .nil, _ => true
  | .plain l rest, o => rest.isSettled env (o.carry env l.line.statement? (l.perform env o.view))
  | .chain c rest, o => c.isSettled env o && rest.isSettled env (c.perform env o)

/-- The same for chains. -/
def Chain.isSettled {lead : Lead} (env : Env) : Chain lead → Outcome → Bool
  | .stop, _ => true
  | .single l next, o =>
      match l.head.test env o.view with
      | (true, _) => true
      | (false, v) => next.isSettled env (o.carry env l.line.statement? v)
  | .block p body _ next, o =>
      match p.head.test env o.view with
      | (true, v) => body.isSettled env (o.carry env p.line.statement? v)
      | (false, v) => next.isSettled env (o.carry env p.line.statement? v).opened
  | .joined p body next, o =>
      match p.head.test env o.view with
      | (true, v) =>
          body.isSettled env (o.carry env p.line.statement? v) &&
            !(body.perform env (o.carry env p.line.statement? v)).isOpen
      | (false, v) => next.isSettled env (o.carry env p.line.statement? v).opened

end

theorem Outcome.closed_eq_self {o : Outcome} (h : o.isOpen = false) : o.closed = o := by
  rw [Outcome.closed, ← h]

mutual

/-- **Where nothing is left open, joining braces makes no difference.** -/
theorem Body.Joins.perform_eq {env : Env} {b b' : Body} {o : Outcome} :
    b.Joins b' → b'.isSettled env o = true → b'.perform env o = b.perform env o
  | .nil, _ => rfl
  | .plain h hrest, hsettled => by
    rw [Body.isSettled] at hsettled
    rw [Body.perform, Body.perform, hrest.perform_eq hsettled, PlainLine.perform_of_text h,
      Line.statement?_of_text h]
  | .chain h hrest, hsettled => by
    rw [Body.isSettled, Bool.and_eq_true] at hsettled
    rw [Body.perform, Body.perform, hrest.perform_eq hsettled.2, h.perform_eq hsettled.1]

/-- The same for chains. -/
theorem Chain.Joins.perform_eq {env : Env} {lead lead' : Lead} {c : Chain lead} {c' : Chain lead'}
    {o : Outcome} : c.Joins c' → c'.isSettled env o = true → c'.perform env o = c.perform env o
  | .stop, _ => rfl
  | .single h hnext, hsettled => by
    obtain ⟨hs, hhead, hbody⟩ := h.oneLine
    rw [Chain.isSettled, hs, hhead] at hsettled
    rw [Chain.perform, Chain.perform, hs, hhead, hbody]
    split
    · rfl
    · next htest =>
      rw [htest] at hsettled
      exact hnext.perform_eq hsettled
  | .block h hbody hnext, hsettled => by
    obtain ⟨hs, hhead⟩ := h.opening
    rw [Chain.isSettled, hs, hhead] at hsettled
    rw [Chain.perform, Chain.perform, hs, hhead]
    split
    · next htest =>
      rw [htest] at hsettled
      rw [hbody.perform_eq hsettled]
    · next htest =>
      rw [htest] at hsettled
      exact hnext.perform_eq hsettled
  | .joined h hbody hnext, hsettled => by
    obtain ⟨hs, hhead⟩ := h.opening
    rw [Chain.isSettled, hs, hhead] at hsettled
    rw [Chain.perform, Chain.perform, hs, hhead]
    split
    · next htest =>
      rw [htest] at hsettled
      dsimp only at hsettled
      rw [Bool.and_eq_true, Bool.not_eq_true'] at hsettled
      dsimp only
      rw [hsettled.2, if_neg Bool.false_ne_true, hbody.perform_eq hsettled.1]
      refine (Outcome.closed_eq_self ?_).symm
      rw [← hbody.perform_eq hsettled.1, hsettled.2]
    · next htest =>
      rw [htest] at hsettled
      exact hnext.perform_eq hsettled

end

/-! ## Where something is left open -/

/-- Whether a list of statements starts with an `else`. -/
def startsWithElse : List (Option Statement) → Bool
  | some s :: _ => s.isElse
  | _ => false

/-- Up to some place two scripts carry out the same.  There the first goes on with an `else`, and
the second does not. -/
def Diverges (trail trail' : List (Option Statement)) : Prop :=
  ∃ common more more', trail = common ++ more ∧ trail' = common ++ more' ∧
    startsWithElse more = true ∧ startsWithElse more' = false

namespace Diverges

variable {trail trail' : List (Option Statement)}

theorem ne (h : Diverges trail trail') : trail ≠ trail' := by
  obtain ⟨common, more, more', rfl, rfl, hmore, hmore'⟩ := h
  intro heq
  rw [List.append_cancel_left heq, hmore'] at hmore
  cases hmore

theorem append (h : Diverges trail trail') (more more' : List (Option Statement))
    (hmore' : startsWithElse more' = false) : Diverges (trail ++ more) (trail' ++ more') := by
  obtain ⟨common, tail, tail', rfl, rfl, htail, htail'⟩ := h
  refine ⟨common, tail ++ more, tail' ++ more', List.append_assoc .., List.append_assoc .., ?_, ?_⟩
  · cases tail with
    | nil => cases htail
    | cons s tail => cases s <;> exact htail
  · cases tail' with
    | nil => exact hmore'
    | cons s tail' => cases s <;> exact htail'

end Diverges

/-- What a list of lines carries out starts with the statement of the first line. -/
def StartsLike (lines : List Line) (trail : List (Option Statement)) : Prop :=
  trail.head? = lines.head?.map Line.statement?

theorem Outcome.trail_carry_append (o : Outcome) (env : Env) (s : Option Statement) (v : View)
    (more : List (Option Statement)) : (o.carry env s v).trail ++ more = o.trail ++ s :: more := by
  rw [Outcome.carry, List.append_assoc, List.singleton_append]

mutual

theorem Body.exists_trail (env : Env) : (b : Body) → (o : Outcome) →
    ∃ more, (b.perform env o).trail = o.trail ++ more ∧ StartsLike b.lines more
  | .nil, o => ⟨[], (List.append_nil _).symm, rfl⟩
  | .plain l b, o => by
    obtain ⟨more, hmore, -⟩ :=
      b.exists_trail env (o.carry env l.line.statement? (l.perform env o.view))
    refine ⟨l.line.statement? :: more, ?_, rfl⟩
    rw [Body.perform, hmore, o.trail_carry_append]
  | .chain c b, o => by
    obtain ⟨front, hfront, hstarts⟩ := c.exists_trail env o
    obtain ⟨more, hmore, -⟩ := b.exists_trail env (c.perform env o)
    refine ⟨front ++ more, ?_, ?_⟩
    · rw [Body.perform, hmore, hfront, List.append_assoc]
    · obtain ⟨hlead, -⟩ | ⟨line, s, ls, hlines, -⟩ := c.lines_cases
      · cases hlead
      · rw [StartsLike, hlines] at hstarts
        rw [StartsLike, Body.lines, hlines]
        cases front with
        | nil => cases hstarts
        | cons s front => exact hstarts

theorem Chain.exists_trail (env : Env) {lead : Lead} : (c : Chain lead) → (o : Outcome) →
    ∃ more, (c.perform env o).trail = o.trail ++ more ∧ StartsLike c.lines more
  | .stop, o => ⟨[], (List.append_nil _).symm, rfl⟩
  | .single l next, o => by
    rw [Chain.perform]
    rcases l.head.test env o.view with ⟨_ | _, v⟩
    · obtain ⟨more, hmore, -⟩ := next.exists_trail env (o.carry env l.line.statement? v)
      exact ⟨l.line.statement? :: more, hmore.trans (o.trail_carry_append ..), rfl⟩
    · exact ⟨[l.line.statement?], rfl, rfl⟩
  | .block p body close next, o => by
    rw [Chain.perform]
    rcases p.head.test env o.view with ⟨_ | _, v⟩
    · obtain ⟨more, hmore, -⟩ := next.exists_trail env (o.carry env p.line.statement? v).opened
      exact ⟨p.line.statement? :: more,
        hmore.trans (o.trail_carry_append env p.line.statement? v more), rfl⟩
    · obtain ⟨more, hmore, -⟩ := body.exists_trail env (o.carry env p.line.statement? v)
      exact ⟨p.line.statement? :: more, hmore.trans (o.trail_carry_append ..), rfl⟩
  | .joined p body next, o => by
    rw [Chain.perform]
    rcases p.head.test env o.view with ⟨_ | _, v⟩
    · obtain ⟨more, hmore, -⟩ := next.exists_trail env (o.carry env p.line.statement? v).opened
      exact ⟨p.line.statement? :: more,
        hmore.trans (o.trail_carry_append env p.line.statement? v more), rfl⟩
    · obtain ⟨more, hmore, -⟩ := body.exists_trail env (o.carry env p.line.statement? v)
      obtain ⟨more', hmore', -⟩ :=
        next.exists_trail env (body.perform env (o.carry env p.line.statement? v))
      dsimp only
      split
      · refine ⟨p.line.statement? :: (more ++ more'), ?_, rfl⟩
        rw [hmore', hmore, List.append_assoc, o.trail_carry_append]
      · exact ⟨p.line.statement? :: more, hmore.trans (o.trail_carry_append ..), rfl⟩

end

theorem Body.startsWithElse_of_startsLike (b : Body) {trail : List (Option Statement)}
    (h : StartsLike b.lines trail) : startsWithElse trail = false := by
  have hhead (line : Line) (hline : b.lines.head? = some line) (s : Statement)
      (hs : line.statement? = some s) : s.isElse = false := by
    cases b with
    | nil => cases hline
    | plain l b =>
      obtain rfl := Option.some.inj hline
      exact Statement.isElse_of_not_isLayout (l.plain s hs)
    | chain c b =>
      obtain ⟨hlead, -⟩ | ⟨line', s', ls, hlines, hs', helse⟩ := c.lines_cases
      · cases hlead
      · rw [Body.lines, hlines] at hline
        obtain rfl := Option.some.inj hline
        obtain rfl := Option.some.inj (hs'.symm.trans hs)
        exact helse
  cases trail with
  | nil => rfl
  | cons s? trail =>
    cases s? with
    | none => rfl
    | some s =>
      obtain ⟨line, hline, hs⟩ := Option.map_eq_some_iff.mp h.symm
      exact hhead line hline s hs

theorem Chain.startsWithElse_of_startsLike (c : Chain .joined) {trail : List (Option Statement)}
    (h : StartsLike c.lines trail) : startsWithElse trail = true := by
  obtain ⟨hlead, -⟩ | ⟨line, s, ls, hlines, hs, helse, -⟩ := c.lines_cases
  · cases hlead
  · rw [StartsLike, hlines, List.head?_cons, Option.map_some, hs] at h
    cases trail with
    | nil => cases h
    | cons s? trail =>
      obtain rfl := Option.some.inj h
      exact helse

mutual

/-- **Where something is left open, the joined body goes on with an `else`, and the other behind the
chain.** -/
theorem Body.Joins.diverges {env : Env} {b b' : Body} {o : Outcome} :
    b.Joins b' → b'.isSettled env o = false →
    Diverges (b'.perform env o).trail (b.perform env o).trail
  | .nil, h => by cases h
  | .plain h hrest, hsettled => by
    rw [Body.isSettled] at hsettled
    rw [Body.perform, Body.perform, ← PlainLine.perform_of_text h, ← Line.statement?_of_text h]
    exact hrest.diverges hsettled
  | @Body.Joins.chain c c' rest rest' h hrest, hsettled => by
    rw [Body.isSettled] at hsettled
    rw [Body.perform, Body.perform]
    cases hc : c'.isSettled env o with
    | true =>
      rw [hc, Bool.true_and, h.perform_eq hc] at hsettled
      rw [h.perform_eq hc]
      exact hrest.diverges hsettled
    | false =>
      obtain ⟨more, hmore, hstarts⟩ := rest.exists_trail env (c.perform env o)
      obtain ⟨more', hmore', -⟩ := rest'.exists_trail env (c'.perform env o)
      rw [hmore, hmore']
      exact (h.diverges hc).append _ _ (rest.startsWithElse_of_startsLike hstarts)

/-- The same for chains. -/
theorem Chain.Joins.diverges {env : Env} {lead lead' : Lead} {c : Chain lead} {c' : Chain lead'}
    {o : Outcome} : c.Joins c' → c'.isSettled env o = false →
    Diverges (c'.perform env o).trail (c.perform env o).trail
  | .stop, h => by cases h
  | .single h hnext, hsettled => by
    obtain ⟨hs, hhead, hbody⟩ := h.oneLine
    rw [Chain.isSettled, hs, hhead] at hsettled
    rw [Chain.perform, Chain.perform, hs, hhead, hbody]
    split
    · next htest => rw [htest] at hsettled; cases hsettled
    · next htest =>
      rw [htest] at hsettled
      exact hnext.diverges hsettled
  | .block h hbody hnext, hsettled => by
    obtain ⟨hs, hhead⟩ := h.opening
    rw [Chain.isSettled, hs, hhead] at hsettled
    rw [Chain.perform, Chain.perform, hs, hhead]
    split
    · next htest =>
      rw [htest] at hsettled
      exact hbody.diverges hsettled
    · next htest =>
      rw [htest] at hsettled
      exact hnext.diverges hsettled
  | @Chain.Joins.joined _ _ op _ _ body' _ _ next' h hbody hnext, hsettled => by
    obtain ⟨hs, hhead⟩ := h.opening
    rw [Chain.isSettled, hs, hhead] at hsettled
    rw [Chain.perform, Chain.perform, hs, hhead]
    split
    · next v htest =>
      rw [htest] at hsettled
      dsimp only at hsettled ⊢
      obtain ⟨more, hmore, hstarts⟩ :=
        next'.exists_trail env (body'.perform env (o.carry env op.line.statement? v))
      cases hb : body'.isSettled env (o.carry env op.line.statement? v) with
      | true =>
        rw [hb, Bool.true_and, Bool.not_eq_false'] at hsettled
        rw [if_pos hsettled, hmore, hbody.perform_eq hb]
        exact ⟨_, more, [], rfl, (List.append_nil _).symm,
          next'.startsWithElse_of_startsLike hstarts, rfl⟩
      | false =>
        have hdiverges := hbody.diverges hb
        split
        · rw [hmore]
          have happend := hdiverges.append more [] rfl
          rwa [List.append_nil] at happend
        · exact hdiverges
    · next htest =>
      rw [htest] at hsettled
      exact hnext.diverges hsettled

end

end Layout

namespace Script

/-- **Joining braces leaves what a script carries out unchanged exactly when no branch is left
open.**  Take a script in which every part of a chain stands on a line of its own, and the same
script with some of the closing braces joined to the lines below them.  Either runs off its end,
unless it hangs in a line that never ends.  If neither hangs, they carry out the same statements if
and only if no branch that the second one runs, and that the next part of its chain closes, ends
with a conditional none of whose branches runs.  In that case, and also if they hang, they send out
the same and leave the same variables, and where they do not hang these are what the meaning of the
script gives. -/
theorem joined_trail_eq_iff (p p' : Program) {b b' : Body} (h : b.Joins b')
    (hdirect : b.isDirect = true)
    (hlines : p.lines.toList = b.lines) (hlines' : p'.lines.toList = b'.lines)
    (hname : p'.name = p.name) (env : Env) (settings : Settings) (args : List String) :
    ∃ met fate met' fate', RunsOff env args (ofProgram p settings) met fate ∧
      RunsOff env args (ofProgram p' settings) met' fate' ∧
      (fate.isReturn = true → fate'.isReturn = true →
        (met'.flatMap carried = met.flatMap carried ↔
          b'.isSettled env { view := firstView p.name args } = true)) ∧
      (b'.isSettled env { view := firstView p.name args } = true →
        fate'.isReturn = fate.isReturn ∧ fate'.view = fate.view ∧
          b.eval env (firstView p.name args) =
            if fate.isReturn then some fate.view else none) := by
  obtain ⟨met, fate, hruns, hreturn, hview, htrail⟩ :=
    exists_runsOff_body b hlines hdirect env settings args rfl
  obtain ⟨met', fate', hruns', hreturn', hview', htrail'⟩ :=
    exists_runsOff_body b' hlines' (h.isDirect.trans hdirect) env settings args rfl
  rw [hname] at hreturn' hview' htrail'
  refine ⟨met, fate, met', fate', hruns, hruns', fun hr hr' => ?_, fun hsettled => ?_⟩
  · rw [htrail hr, htrail' hr']
    constructor
    · intro heq
      cases hsettled : b'.isSettled env { view := firstView p.name args } with
      | true => rfl
      | false => exact absurd heq (h.diverges hsettled).ne
    · intro hsettled
      rw [h.perform_eq hsettled]
  · rw [h.perform_eq hsettled] at hreturn' hview'
    refine ⟨hreturn'.trans hreturn.symm, hview'.trans hview.symm, ?_⟩
    have hresult := b.result?_perform env h.isParted { view := firstView p.name args }
    rw [hreturn, hview]
    refine hresult.symm.trans ?_
    rw [Outcome.result?]
    cases (b.perform env { view := firstView p.name args }).stuck? <;> rfl

end Script

/-! ## An example -/

namespace Layout

/-- The script `nested` with the brace of its first branch joined to the `else`. -/
def joinedNested : Body :=
  .chain
    (.joined outerOpening innerBody
      (.block (.braced (nestedLine 5 "\x7d else \x7b") .otherwise (by decide +kernel)
          ⟨rfl, by decide⟩)
        (.plain ⟨nestedLine 6 "echo other", by decide +kernel⟩ .nil)
        ⟨nestedLine 7 "\x7d", by decide +kernel⟩ .stop))
    .nil

/-- The program of `joinedNested`. -/
def joinedProgram : Program where
  name := "nested"
  lines := joinedNested.lines.toArray

theorem nested_joins : nested.Joins joinedNested := by
  refine .chain (.joined ⟨rfl, rfl⟩ ?_ (.block ⟨?_, [' '], ?_, ?_⟩ (.plain rfl .nil) .stop)) .nil
  · exact .chain (.block ⟨rfl, rfl⟩ (.plain rfl .nil) .stop) .nil
  · intro c hc
    obtain rfl : 'e' = c := Option.some.inj hc
    rfl
  · exact List.all_eq_true.mp rfl
  · rfl

end Layout

namespace Script

/-- With an argument the conditional in the first branch runs, and both scripts carry out the
same. -/
theorem joined_nested_trail_eq :
    nested.isDirect = true ∧ ∃ met fate met' fate',
      RunsOff {} ["x"] (ofProgram nestedProgram {}) met fate ∧
      RunsOff {} ["x"] (ofProgram joinedProgram {}) met' fate' ∧
      fate.isReturn = true ∧ fate'.isReturn = true ∧
      met'.flatMap carried = met.flatMap carried ∧ fate'.view = fate.view := by
  have hdirect : nested.isDirect = true := by decide +kernel
  have hsettled : joinedNested.isSettled {} { view := firstView "nested" ["x"] } = true := by
    decide +kernel
  obtain ⟨met, fate, met', fate', hruns, hruns', htrail, hsame⟩ :=
    joined_trail_eq_iff nestedProgram joinedProgram nested_joins hdirect rfl rfl rfl {} {} ["x"]
  obtain ⟨hreturn', hview, heval⟩ := hsame hsettled
  have hreturn : fate.isReturn = true := by
    change _ = if fate.isReturn then some fate.view else none at heval
    rw [show nestedProgram.name = "nested" from rfl, eval_nested] at heval
    cases h : fate.isReturn with
    | true => rfl
    | false => rw [h] at heval; cases heval
  rw [hreturn] at hreturn'
  exact ⟨hdirect, met, fate, met', fate', hruns, hruns', hreturn, hreturn',
    (htrail hreturn hreturn').mpr hsettled, hview⟩

/-- **Without an argument the two scripts send out different things.**  The first branch of the
joined one runs, and then the other branch as well. -/
theorem joined_nested_sent_ne :
    (start {} [] (ofProgram joinedProgram {})).view.sent = [.echo "other"] ∧
      (start {} [] (ofProgram nestedProgram {})).view.sent = [] := by
  obtain ⟨-, t, fs, -, ht, hstart, -⟩ :=
    exists_run_body (p := nestedProgram) nested rfl (by decide +kernel) {} {} []
  obtain ⟨-, t', fs', -, ht', hstart', -⟩ :=
    exists_run_body (p := joinedProgram) joinedNested rfl (by decide +kernel) {} {} []
  rw [hstart, hstart', view_cancel ht.phase, view_cancel ht'.phase, ht.view, ht'.view]
  have hecho : (nestedLine 6 "echo other").statement? = some (.echo "other") := by decide +kernel
  have hother : (firstView "nested" []).substitute {} "other" = "other" :=
    Sigils.substitute_eq_self (by decide +kernel)
  refine ⟨?_, rfl⟩
  change (PlainLine.perform {} ⟨nestedLine 6 "echo other", _⟩ (firstView "nested" [])).sent = _
  rw [PlainLine.perform, hecho]
  change [Event.echo ((firstView "nested" []).substitute {} "other")] = _
  rw [hother]

end Script

end StreamScript
