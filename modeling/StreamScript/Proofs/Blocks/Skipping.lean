import StreamScript.Proofs.Blocks.Abreast

/-!
# Where passing over a block ends

Passing over a block looks at one line after another and keeps track of the blocks
opened on the way.  When it ends, all of those are closed again, so the conditionals
that were open before are open still, and the script has not gone back.  This holds in
any program and at any place (`opened_eq_nil_of_stop`).

That the conditionals opened on the way are held apart from those before makes no
difference.  On one stack of both, which is not taken below the depth it had at first,
passing over a block comes to the same (`skipBlock_eq_skipOnStack`).

In front of a body it ends where it should (`skipBlock_exact`): behind the brace that
closes the block, or in front of the line that closes it and goes on with its chain.
Whatever stands in the body is passed over, in whichever way its conditionals are
written.  If the program ends before the block is closed, this is noticed, even in the
midst of an inner block.  For what comes behind a place at which passing over lines
ends has no influence on it (`skipLines_append_of_stop`), and over a whole body it does
not end.
-/

namespace StreamScript

namespace Walk

variable {opened : List Frame} {chained : Bool} {idx : Nat} {lines : List Line} {stop : BlockStop}

/-- Where passing over lines ends, what was opened on the way is closed. -/
theorem opened_eq_nil_of_stop (h : (skipLines opened chained idx lines).stop? = some stop) :
    (skipLines opened chained idx lines).opened = [] := by
  induction lines generalizing opened chained idx with
  | nil => cases h
  | cons line rest ih =>
    rw [skipLines_cons] at h ⊢
    cases hpassed : passLine opened chained idx line.role with
    | stop why => cases why <;> rfl
    | on opened' chained' =>
      rw [hpassed] at h
      exact ih h

/-- Where passing over lines ends, it ends whatever lines come behind. -/
theorem skipLines_append_of_stop (more : List Line)
    (h : (skipLines opened chained idx lines).stop? = some stop) :
    skipLines opened chained idx (lines ++ more) = skipLines opened chained idx lines := by
  induction lines generalizing opened chained idx with
  | nil => cases h
  | cons line rest ih =>
    rw [skipLines_cons] at h
    rw [List.cons_append, skipLines_cons, skipLines_cons]
    cases hpassed : passLine opened chained idx line.role with
    | stop why => cases why <;> rfl
    | on opened' chained' =>
      rw [hpassed] at h
      exact ih h

/-! ## On one stack -/

/-- Passes over lines with one stack of open conditionals, which had the given depth at first. -/
def skipOnStack (depth : Nat) (chained : Bool) (w : Walk) : List Line → Option BlockStop × Walk
  | [] => (none, w)
  | line :: rest =>
      let behind : Walk := { w with next := w.next + 1 }
      match line.statement? with
      | none => skipOnStack depth false behind rest
      | some s =>
          if s.startsChain then
            if s.isSingle then skipOnStack depth true behind rest
            else skipOnStack depth false (behind.push ⟨w.next, false⟩) rest
          else if s.isElse then
            if line.closesBlock then
              if w.ifs.length ≤ depth then (some .sibling, w)
              else if s.opensBlock then
                skipOnStack depth false (behind.replaceTop ⟨w.next, false⟩) rest
              else skipOnStack depth true behind.pop rest
            else if chained then
              if s.opensBlock then skipOnStack depth false (behind.push ⟨w.next, false⟩) rest
              else skipOnStack depth chained behind rest
            else if w.ifs.length ≤ depth then (some .sibling, w)
            else if s.opensBlock then skipOnStack depth false (behind.push ⟨w.next, false⟩) rest
            else skipOnStack depth chained behind rest
          else
            match s with
            | .rightBrace =>
                if w.ifs.length ≤ depth then (some .brace, behind)
                else skipOnStack depth true behind.pop rest
            | .leftBrace => skipOnStack depth chained behind rest
            | _ => skipOnStack depth false behind rest

/-- The lines that are left are passed over in the same way, with some conditionals at the bottom of
the stack. -/
def Passed.skipOnStack (p : Program) (below : List Frame) (idx : Nat) (rest : List Line) :
    Passed → Option BlockStop × Walk
  | .stop .sibling => (some .sibling, ⟨p, idx, below⟩)
  | .stop .brace => (some .brace, ⟨p, idx + 1, below⟩)
  | .on opened chained =>
      Walk.skipOnStack below.length chained ⟨p, idx + 1, opened ++ below⟩ rest

/-- Over one line the conditionals at the bottom of the stack are not looked at. -/
theorem skipOnStack_cons (p : Program) (opened below : List Frame) (chained : Bool) (idx : Nat)
    (line : Line) (rest : List Line) :
    skipOnStack below.length chained ⟨p, idx, opened ++ below⟩ (line :: rest) =
      (passLine opened chained idx line.role).skipOnStack p below idx rest := by
  have hdepth : (opened ++ below).length ≤ below.length ↔ opened = [] := by
    rw [List.length_append, ← List.length_eq_zero_iff]
    omega
  rw [skipOnStack.eq_def, Line.role]
  simp only [hdepth]
  cases line.statement? with
  | none => rfl
  | some s =>
    dsimp only
    cases s.startsChain with
    | true => cases s.isSingle <;> rfl
    | false =>
      cases s.isElse with
      | true =>
        cases line.closesBlock with
        | true =>
          cases opened with
          | nil => rfl
          | cons => cases s.opensBlock <;> rfl
        | false => cases opened <;> cases chained <;> cases s.opensBlock <;> rfl
      | false =>
        cases s with
        | rightBrace => cases opened <;> rfl
        | _ => rfl

/-- The conditionals at the bottom of the stack are never looked at. -/
theorem skipOnStack_eq (p : Program) (opened below : List Frame) (chained : Bool) (idx : Nat)
    (lines : List Line) :
    skipOnStack below.length chained ⟨p, idx, opened ++ below⟩ lines =
      ((skipLines opened chained idx lines).stop?,
        ⟨p, (skipLines opened chained idx lines).next,
          (skipLines opened chained idx lines).opened ++ below⟩) := by
  induction lines generalizing opened chained idx with
  | nil => rfl
  | cons line rest ih =>
    rw [skipOnStack_cons, skipLines_cons]
    cases passLine opened chained idx line.role with
    | stop why => cases why <;> rfl
    | on opened' chained' => exact ih opened' chained' (idx + 1)

/-- **One stack of all open conditionals does as well.** -/
theorem skipBlock_eq_skipOnStack (w : Walk) :
    w.skipBlock = skipOnStack w.ifs.length false w (w.program.lines.toList.drop w.next) :=
  (skipOnStack_eq w.program [] w.ifs false w.next _).symm

end Walk

namespace Layout

open Walk

variable {lead : Lead} {w : Walk} {o : Opening lead} {i idx : Nat} {ls : List Line}

/-- Within a body passing over lines does not end. -/
theorem stop?_skipLines_of_prefix (body : Body) (h : ls <+: body.lines) :
    (skipLines [] false idx ls).stop? = none := by
  obtain ⟨more, hmore⟩ := h
  obtain ⟨chained, hbody⟩ := body.skipLines_append [] false idx []
  rw [List.append_nil, ← hmore] at hbody
  by_contra hne
  obtain ⟨stop, hstop⟩ := Option.ne_none_iff_exists'.mp hne
  rw [skipLines_append_of_stop more hstop] at hbody
  rw [hbody] at hstop
  cases hstop

/-- A place behind an opening, or between its line and its brace, where these have the given index
and certain lines follow. -/
structure Entered (w : Walk) (o : Opening lead) (i : Nat) (ls : List Line) : Prop where
  program : w.program.From i (o.lines ++ ls)
  next : w.next = i + 1 ∨ w.next = i + o.lines.length

/-- At such a place there is nothing but the brace of the opening in front of the lines. -/
theorem Entered.exists_braces (h : Entered w o i ls) : ∃ braces : List Line,
    (∀ l ∈ braces, l.statement? = some .leftBrace) ∧ w.program.From w.next (braces ++ ls) ∧
      w.next + braces.length = i + o.lines.length := by
  obtain hnext | hnext := h.next
  · refine ⟨o.below?.toList, o.below_isBrace, h.program.tail.at_eq hnext.symm, ?_⟩
    rw [hnext, o.length_lines]
    omega
  · exact ⟨[], nofun, h.program.append.at_eq hnext.symm, by rw [hnext]; rfl⟩

/-- **Where passing over a block ends.**  Wherever it ends, the open conditionals are those of
before, and the script has not gone back.  Behind the opening of a block, whose body is laid out
properly, it ends behind the brace that closes the block; if the line that closes the block goes on
with its chain, it ends in front of that line; and if the program ends within the body or behind it,
it does not end at all. -/
theorem skipBlock_exact (w : Walk) :
    (∀ stop, w.skipBlock.1 = some stop →
        w.skipBlock.2.ifs = w.ifs ∧ w.next ≤ w.skipBlock.2.next) ∧
      ∀ (lead : Lead) (o : Opening lead) (body : Body) (i : Nat),
        (∀ (close : Closing) (rest : List Line),
          Entered w o i (body.lines ++ close.line :: rest) →
          w.skipBlock =
            (some .brace, { w with next := i + o.lines.length + body.lines.length + 1 })) ∧
        (∀ (line : Line) (s : Statement) (rest : List Line),
          line.statement? = some s → s.isElse = true → line.closesBlock = true →
          Entered w o i (body.lines ++ line :: rest) →
          w.skipBlock =
            (some .sibling, { w with next := i + o.lines.length + body.lines.length })) ∧
        ∀ ls, ls <+: body.lines → Entered w o i ls → w.skipBlock.1 = none := by
  refine ⟨fun stop hstop => ⟨?_, le_next_skipBlock w⟩, fun lead o body i => ⟨?_, ?_, ?_⟩⟩
  · exact congrArg (· ++ w.ifs) (opened_eq_nil_of_stop hstop)
  · intro close rest h
    obtain ⟨braces, hbraces, hfrom, hlength⟩ := h.exists_braces
    have hskip := skipBlock_of_close w.ifs braces body close hbraces hfrom
    rwa [hlength] at hskip
  · intro line s rest hs helse hcloses h
    obtain ⟨braces, hbraces, hfrom, hlength⟩ := h.exists_braces
    obtain ⟨chained, hskip⟩ := exists_skipBlock_eq w.ifs braces body hbraces hfrom
    rwa [skipLines_else_nil hs helse hcloses, hlength] at hskip
  · intro ls hls h
    obtain ⟨braces, hbraces, hfrom, -⟩ := h.exists_braces
    have hlines : w.program.lines.toList.drop w.next = braces ++ ls := hfrom
    rw [skipBlock]
    dsimp only
    rw [hlines, skipLines_braces hbraces]
    exact stop?_skipLines_of_prefix body hls

/-! ### An example -/

/-- A line of a script called `passed`. -/
def passedLine (number : Nat) (text : String) : Line :=
  .ofText "passed" number text

/-- The first line of `passed`. -/
def passedOpening : Opening .first :=
  .braced (passedLine 1 "if_5 \x7b") (.ifArgs 5) (by decide +kernel) rfl

/-- The body of `passed`: a chain of three parts, the first with its brace on the next line, the
second joined to it and the third on one line, and another chain of one part. -/
def passedBody : Body :=
  .chain
    (.joined
      { line := passedLine 2 "if_2", head := .ifArgs 2, below? := some (passedLine 3 "\x7b")
        reads := by decide +kernel
        below_reads := by rintro _ ⟨⟩; decide +kernel
        fits := rfl }
      (.plain ⟨passedLine 4 "goto away", by decide +kernel⟩ .nil)
      (.block
        (.braced (passedLine 5 "\x7d else if_3 \x7b") (.elseIf (Statement.argsPhrase 3))
          (by decide +kernel) ⟨rfl, by decide⟩)
        (.plain ⟨passedLine 6 "echo b", by decide +kernel⟩ .nil)
        ⟨passedLine 7 "\x7d", by decide +kernel⟩
        (.single
          { line := passedLine 8 "else echo c", head := .otherwise, body := .echo "c"
            reads := by decide +kernel
            fits := ⟨rfl, by decide⟩ }
          .stop)))
    (.chain
      (.single
        { line := passedLine 9 "if_4 echo d", head := .ifArgs 4, body := .echo "d"
          reads := by decide +kernel
          fits := rfl }
        .stop)
      .nil)

/-- The script `passed` behind its opening, where certain lines follow. -/
def passedWalk (ls : List Line) : Walk where
  program := { name := "passed", lines := (passedOpening.lines ++ ls).toArray }
  next := 1
  ifs := [⟨0, false⟩]

theorem entered_passedWalk (ls : List Line) : Entered (passedWalk ls) passedOpening 0 ls :=
  ⟨rfl, .inl rfl⟩

/-- The body of `passed` is passed over as far as the line that closes the block, of either kind.
Without such a line, and with the first two lines of the body alone, passing over it does not
end. -/
theorem skipBlock_passed :
    let closed := passedWalk (passedBody.lines ++ [passedLine 10 "\x7d"])
    let joined := passedWalk (passedBody.lines ++ [passedLine 10 "\x7d else echo e"])
    closed.skipBlock = (some .brace, { closed with next := 10 }) ∧
      closed.skipBlock.2.ifs = closed.ifs ∧
      joined.skipBlock = (some .sibling, { joined with next := 9 }) ∧
      (passedWalk passedBody.lines).skipBlock.1 = none ∧
      (passedWalk (passedBody.lines.take 2)).skipBlock.1 = none := by
  intro closed joined
  have hclose : (passedLine 10 "\x7d").statement? = some .rightBrace := by decide +kernel
  have helse : (passedLine 10 "\x7d else echo e").statement? =
      some (.single .otherwise (.echo "e")) := by decide +kernel
  have hclosed := ((skipBlock_exact closed).2 _ passedOpening passedBody 0).1 ⟨_, hclose⟩ []
    (entered_passedWalk _)
  have hopen (ls : List Line) (hls : ls <+: passedBody.lines) :
      (passedWalk ls).skipBlock.1 = none :=
    ((skipBlock_exact _).2 _ passedOpening passedBody 0).2.2 ls hls (entered_passedWalk _)
  refine ⟨hclosed, ?_, ?_, hopen _ (List.prefix_refl _), hopen _ (List.take_prefix ..)⟩
  · exact ((skipBlock_exact closed).1 .brace (by rw [hclosed])).1
  · exact ((skipBlock_exact joined).2 _ passedOpening passedBody 0).2.1 _ _ [] helse rfl (by decide)
      (entered_passedWalk _)

end Layout

end StreamScript
