import StreamScript.Proofs.Blocks.Layout
import StreamScript.Script.Walk

/-!
# Passing over bodies

A branch that is not taken is passed over line by line, without a tree.  Passing
over a body leaves the open conditionals as they are and comes out behind it
(`Body.skipLines_append`), whatever is nested in it.  The proof is an induction on
the tree, and what carries it is `Lead.Within`: it says which conditionals are
open, and whether the line before belongs to a chain, in front of a part with the
given lead.

From this follow the two ways in which a script makes use of it.  Passing over
the block just opened stops behind its brace, or in front of the line that closes
it (`skipBlock_of_close`, `skipBlock_of_joined`); and behind a branch that has run,
passing over the rest of the chain comes out behind the chain
(`Chain.skipChain_eq`).
-/

namespace StreamScript

namespace Program

/-- The lines of a program from an index on. -/
def From (p : Program) (i : Nat) (lines : List Line) : Prop :=
  p.lines.toList.drop i = lines

variable {p : Program} {i : Nat} {l : Line} {ls ls' : List Line}

theorem From.head (h : p.From i (l :: ls)) : p.lines[i]? = some l := by
  rw [← Array.getElem?_toList, ← List.head?_drop, h, List.head?_cons]

theorem From.append (h : p.From i (ls ++ ls')) : p.From (i + ls.length) ls' := by
  rw [From, ← List.drop_drop, h, List.drop_left]

theorem From.tail (h : p.From i (l :: ls)) : p.From (i + 1) ls := by
  rw [From, ← List.drop_drop, h]
  rfl

theorem From.statement? (h : p.From i (l :: ls)) : p.statement? i = l.statement? := by
  rw [Program.statement?, h.head, Option.bind_some]

theorem From.at_eq {j : Nat} (h : p.From i ls) (hij : i = j) : p.From j ls :=
  hij ▸ h

theorem From.eq (h : p.From i ls) (h' : p.From i ls') : ls = ls' :=
  Eq.trans (Eq.symm h) h'

end Program

namespace Layout

open Walk

variable {lead : Lead} {opened outer : List Frame} {chained : Bool} {idx : Nat}
  {braces rest : List Line}

/-! ## Single lines -/

/-- What is open in front of a part, and what is open around its chain.  In front of a part on a
line of its own the line before belongs to the chain. -/
inductive Lead.Within : Lead → List Frame → Bool → List Frame → Prop where
  | first (outer : List Frame) (chained : Bool) : Within .first outer chained outer
  | own (outer : List Frame) : Within .own outer true outer
  | joined (top : Frame) (outer : List Frame) (chained : Bool) :
      Within .joined (top :: outer) chained outer

theorem skipLines_plain (l : PlainLine) :
    skipLines opened chained idx (l.line :: rest) = skipLines opened false (idx + 1) rest := by
  rw [skipLines.eq_def]
  dsimp only
  cases hs : l.line.statement? with
  | none => rfl
  | some s =>
    have hlayout := l.plain s hs
    cases s with
    | block | single | leftBrace | rightBrace => cases hlayout
    | _ => rfl

theorem skipLines_leftBrace {l : Line} (h : l.statement? = some .leftBrace) :
    skipLines opened chained idx (l :: rest) = skipLines opened chained (idx + 1) rest := by
  rw [skipLines.eq_def]
  dsimp only
  rw [h]
  rfl

/-- The brace of an inner block is passed over. -/
theorem skipLines_close (close : Closing) (top : Frame) :
    skipLines (top :: outer) chained idx (close.line :: rest) =
      skipLines outer true (idx + 1) rest := by
  rw [skipLines.eq_def]
  dsimp only
  rw [close.reads]
  rfl

/-- The brace of the block being passed over ends it. -/
theorem skipLines_close_nil (close : Closing) :
    skipLines [] chained idx (close.line :: rest) = ⟨some .brace, idx + 1, []⟩ := by
  rw [skipLines.eq_def]
  dsimp only
  rw [close.reads]
  rfl

/-- The line of a part is passed over as one of its chain, whichever way its body is written. -/
theorem skipLines_part {line : Line} {head : Head} {s : Statement}
    (hs : line.statement? = some s) (hstarts : s.startsChain = head.startsChain)
    (helse : s.isElse = !head.startsChain) (hopens : s.opensBlock = !s.isSingle)
    (hfits : lead.Fits head line) (h : lead.Within opened chained outer) :
    skipLines opened chained idx (line :: rest) =
      if s.isSingle then skipLines outer true (idx + 1) rest
      else skipLines (⟨idx, false⟩ :: outer) false (idx + 1) rest := by
  rw [skipLines.eq_def]
  dsimp only
  rw [hs]
  dsimp only
  rw [hstarts, helse, hopens]
  cases h with
  | first =>
    have hhead : head.startsChain = true := hfits
    rw [hhead, if_pos rfl]
  | own =>
    obtain ⟨hhead, hcloses⟩ := hfits
    -- the line before belongs to the chain, so this `else` is not that of the outer block
    have hinner : ¬ (opened.isEmpty && !true) = true := by simp
    rw [hhead, hcloses, if_neg Bool.false_ne_true, if_neg Bool.false_ne_true, if_neg hinner]
    cases s.isSingle <;> rfl
  | joined =>
    obtain ⟨hhead, hcloses⟩ := hfits
    rw [hhead, hcloses, if_neg Bool.false_ne_true]
    cases s.isSingle <;> rfl

theorem skipLines_single (l : OneLine lead) (h : lead.Within opened chained outer) :
    skipLines opened chained idx (l.line :: rest) = skipLines outer true (idx + 1) rest :=
  skipLines_part l.reads (Statement.startsChain_single _ _) (Statement.isElse_single _ _) rfl
    l.fits h

theorem Opening.below_isBrace (o : Opening lead) :
    ∀ l ∈ o.below?.toList, l.statement? = some .leftBrace := by
  intro l hl
  exact o.below_reads l (Option.mem_toList.mp hl)

theorem skipLines_braces (h : ∀ l ∈ braces, l.statement? = some .leftBrace) :
    skipLines opened chained idx (braces ++ rest) =
      skipLines opened chained (idx + braces.length) rest := by
  induction braces generalizing idx with
  | nil => rfl
  | cons l braces ih =>
    obtain ⟨hl, hbraces⟩ := List.forall_mem_cons.mp h
    rw [List.cons_append, skipLines_leftBrace hl, ih hbraces, List.length_cons]
    congr 1
    omega

theorem skipLines_opening (o : Opening lead) (h : lead.Within opened chained outer) :
    skipLines opened chained idx (o.lines ++ rest) =
      skipLines (⟨idx, false⟩ :: outer) false (idx + o.lines.length) rest := by
  have hline : skipLines opened chained idx (o.line :: (o.below?.toList ++ rest)) =
      skipLines (⟨idx, false⟩ :: outer) false (idx + 1) (o.below?.toList ++ rest) :=
    skipLines_part o.reads (Statement.startsChain_block _ _) (Statement.isElse_block _ _) rfl
      o.fits h
  rw [Opening.lines, List.cons_append, hline, skipLines_braces o.below_isBrace, List.length_cons]
  congr 1
  omega

/-! ## Bodies and chains -/

mutual

/-- **Passing over a body comes out behind it with the same conditionals open.** -/
theorem Body.skipLines_append : (b : Body) → (opened : List Frame) → (chained : Bool) →
    (idx : Nat) → (rest : List Line) →
    ∃ chained', skipLines opened chained idx (b.lines ++ rest) =
      skipLines opened chained' (idx + b.lines.length) rest
  | .nil, opened, chained, idx, rest => ⟨chained, rfl⟩
  | .plain l b, opened, chained, idx, rest => by
    obtain ⟨chained', h⟩ := b.skipLines_append opened false (idx + 1) rest
    refine ⟨chained', ?_⟩
    rw [Body.lines, List.cons_append, skipLines_plain, h, List.length_cons]
    congr 1
    omega
  | .chain c b, opened, chained, idx, rest => by
    obtain ⟨chained', h⟩ := b.skipLines_append opened true (idx + c.lines.length) rest
    refine ⟨chained', ?_⟩
    rw [Body.lines, List.append_assoc, c.skipLines_append (.first opened chained), h,
      List.length_append, Nat.add_assoc]

/-- Passing over a chain comes out behind it, with the conditionals around it open. -/
theorem Chain.skipLines_append {lead : Lead} {opened outer : List Frame} {chained : Bool}
    {idx : Nat} {rest : List Line} : (c : Chain lead) → lead.Within opened chained outer →
    skipLines opened chained idx (c.lines ++ rest) =
      skipLines outer true (idx + c.lines.length) rest
  | .stop, h => by
    cases h
    rfl
  | .single l next, h => by
    rw [Chain.length_lines_single, Chain.lines, List.cons_append, skipLines_single l h,
      next.skipLines_append (.own outer), Nat.add_assoc]
  | .block o body close next, h => by
    obtain ⟨chained', hbody⟩ := body.skipLines_append (⟨idx, false⟩ :: outer) false
      (idx + o.lines.length) (close.line :: (next.lines ++ rest))
    rw [Chain.length_lines_block, Chain.lines, List.append_assoc, List.append_assoc,
      List.cons_append, skipLines_opening o h, hbody, skipLines_close,
      next.skipLines_append (.own outer)]
    congr 1
    omega
  | .joined o body next, h => by
    obtain ⟨chained', hbody⟩ := body.skipLines_append (⟨idx, false⟩ :: outer) false
      (idx + o.lines.length) (next.lines ++ rest)
    rw [Chain.length_lines_joined, Chain.lines, List.append_assoc, List.append_assoc,
      skipLines_opening o h, hbody, next.skipLines_append (.joined _ outer _)]
    congr 1
    omega

end

/-! ## The line in front of a part -/

/-- What the line of a part looks like. -/
def Lead.Introduces : Lead → Statement → Line → Prop
  | .first, s, _ => s.isElse = false
  | .own, s, line => s.isElse = true ∧ line.closesBlock = false
  | .joined, s, line => s.isElse = true ∧ line.closesBlock = true

theorem Lead.Fits.introduces {head : Head} {line : Line} {s : Statement}
    (h : lead.Fits head line) (hs : s.isElse = !head.startsChain) : lead.Introduces s line := by
  cases lead with
  | first => rw [Lead.Introduces, hs, h]; rfl
  | own => exact ⟨by rw [hs, h.1]; rfl, h.2⟩
  | joined => exact ⟨by rw [hs, h.1]; rfl, h.2⟩

/-- A chain starts with a line that its lead allows, unless nothing is left of it. -/
theorem Chain.lines_cases (c : Chain lead) : (lead = .own ∧ c.lines = []) ∨
    ∃ line s ls, c.lines = line :: ls ∧ line.statement? = some s ∧ lead.Introduces s line := by
  cases c with
  | stop => exact .inl ⟨rfl, rfl⟩
  | single l next =>
    exact .inr ⟨_, _, _, rfl, l.reads, l.fits.introduces (Statement.isElse_single _ _)⟩
  | block o body close next =>
    exact .inr ⟨_, _, _, rfl, o.reads, o.fits.introduces (Statement.isElse_block _ _)⟩
  | joined o body next =>
    exact .inr ⟨_, _, _, rfl, o.reads, o.fits.introduces (Statement.isElse_block _ _)⟩

/-- A line that closes the block being passed over and goes on with its chain ends it. -/
theorem skipLines_else_nil {line : Line} {s : Statement} (hs : line.statement? = some s)
    (helse : s.isElse = true) (hcloses : line.closesBlock = true) :
    skipLines [] chained idx (line :: rest) = ⟨some .sibling, idx, []⟩ := by
  rw [skipLines.eq_def]
  dsimp only
  rw [hs]
  dsimp only
  rw [Statement.startsChain_eq_false helse, helse, hcloses]
  rfl

/-- A part that is joined to the block being passed over ends it. -/
theorem skipLines_joined_nil (next : Chain .joined) :
    skipLines [] chained idx (next.lines ++ rest) = ⟨some .sibling, idx, []⟩ := by
  obtain ⟨h, -⟩ | ⟨line, s, ls, hlines, hs, helse, hcloses⟩ := next.lines_cases
  · cases h
  · rw [hlines]
    exact skipLines_else_nil hs helse hcloses

/-! ## Passing over the block just opened -/

variable {p : Program} {i : Nat} {ifs : List Frame} {ls : List Line}

/-- Passing over a block ends as passing over what stands behind its body does. -/
theorem exists_skipBlock_eq (ifs : List Frame) (braces : List Line) (body : Body)
    (hb : ∀ l ∈ braces, l.statement? = some .leftBrace)
    (h : p.From i (braces ++ (body.lines ++ ls))) :
    ∃ chained, let skip := skipLines [] chained (i + braces.length + body.lines.length) ls
      skipBlock ⟨p, i, ifs⟩ = (skip.stop?, ⟨p, skip.next, skip.opened ++ ifs⟩) := by
  obtain ⟨chained, hbody⟩ := body.skipLines_append [] false (i + braces.length) ls
  refine ⟨chained, ?_⟩
  rw [skipBlock]
  dsimp only
  rw [h, skipLines_braces hb, hbody]

/-- Passing over a block that is closed on a line of its own stops behind that line. -/
theorem skipBlock_of_close (ifs : List Frame) (braces : List Line) (body : Body) (close : Closing)
    (hb : ∀ l ∈ braces, l.statement? = some .leftBrace)
    (h : p.From i (braces ++ (body.lines ++ close.line :: rest))) :
    skipBlock ⟨p, i, ifs⟩ =
      (some .brace, ⟨p, i + braces.length + body.lines.length + 1, ifs⟩) := by
  obtain ⟨chained, hskip⟩ := exists_skipBlock_eq ifs braces body hb h
  rw [hskip, skipLines_close_nil]
  rfl

/-- Passing over a block that the next part closes stops in front of that part. -/
theorem skipBlock_of_joined (ifs : List Frame) (braces : List Line) (body : Body)
    (next : Chain .joined)
    (hb : ∀ l ∈ braces, l.statement? = some .leftBrace)
    (h : p.From i (braces ++ (body.lines ++ (next.lines ++ rest)))) :
    skipBlock ⟨p, i, ifs⟩ = (some .sibling, ⟨p, i + braces.length + body.lines.length, ifs⟩) := by
  obtain ⟨chained, hskip⟩ := exists_skipBlock_eq ifs braces body hb h
  rw [hskip, skipLines_joined_nil]
  rfl

/-! ## Passing over the rest of a chain -/

theorem skipChain_of_not_else {w : Walk} (h : ∀ s, w.nextStatement? = some s → s.isElse = false) :
    w.skipChain = (true, w) := by
  rw [skipChain]
  split
  · rfl
  · next s hs => rw [h s hs]; rfl

theorem skipChain_of_single {w : Walk} {s : Statement} (hs : w.nextStatement? = some s)
    (helse : s.isElse = true) (hsingle : s.isSingle = true) :
    w.skipChain = skipChain { w with next := w.next + 1 } := by
  rw [skipChain]
  split
  · next h => rw [h] at hs; cases hs
  · next s' h =>
    obtain rfl := Option.some.inj (h.symm.trans hs)
    rw [helse, hsingle]
    rfl

theorem skipChain_of_block {w w' : Walk} {s : Statement} {stop : BlockStop}
    (hs : w.nextStatement? = some s) (helse : s.isElse = true) (hsingle : s.isSingle = false)
    (hskip : skipBlock (push { w with next := w.next + 1 } ⟨w.next, true⟩) = (some stop, w')) :
    w.skipChain = w'.pop.skipChain := by
  rw [skipChain]
  split
  · next h => rw [h] at hs; cases hs
  · next s' h =>
    obtain rfl := Option.some.inj (h.symm.trans hs)
    rw [helse, hsingle]
    simp [hskip]

/-- Behind a block that has been passed over, the rest of the chain is passed over. -/
theorem skipChain_of_opening (o : Opening lead) {ls : List Line} {stop : BlockStop} {j : Nat}
    (hlead : lead ≠ .first) (h : p.From i (o.lines ++ ls))
    (hskip : skipBlock ⟨p, i + 1, ⟨i, true⟩ :: ifs⟩ = (some stop, ⟨p, j, ⟨i, true⟩ :: ifs⟩)) :
    skipChain ⟨p, i, ifs⟩ = skipChain ⟨p, j, ifs⟩ := by
  have hs : nextStatement? ⟨p, i, ifs⟩ = some (.block o.head (placeOf o.below?)) :=
    h.statement?.trans o.reads
  have helse : (Statement.block o.head (placeOf o.below?)).isElse = true := by
    rw [Statement.isElse_block, o.fits.startsChain_eq_false hlead]
    rfl
  exact skipChain_of_block hs helse rfl hskip

/-- **Behind a branch that has run, passing over the rest of its chain comes out behind it.** -/
theorem Chain.skipChain_eq {lead : Lead} {i : Nat} {rest : List Line} : (c : Chain lead) →
    lead ≠ .first → p.From i (c.lines ++ rest) →
    skipChain ⟨p, i, ifs⟩ = skipChain ⟨p, i + c.lines.length, ifs⟩
  | .stop, _, _ => rfl
  | .single l next, hlead, h => by
    have hs : nextStatement? ⟨p, i, ifs⟩ = some (.single l.head l.body) :=
      (Program.From.statement? h).trans l.reads
    have helse : (Statement.single l.head l.body).isElse = true := by
      rw [Statement.isElse_single, l.fits.startsChain_eq_false hlead]
      rfl
    rw [skipChain_of_single hs helse rfl, next.skipChain_eq (by decide) h.tail,
      Chain.length_lines_single, Nat.add_assoc]
  | .block o body close next, hlead, h => by
    rw [Chain.lines, List.append_assoc, List.append_assoc, List.cons_append] at h
    have hskip := skipBlock_of_close (⟨i, true⟩ :: ifs) _ body close o.below_isBrace h.tail
    have hnext := h.append.append.tail.at_eq
      (j := i + 1 + o.below?.toList.length + body.lines.length + 1) (by rw [o.length_lines]; omega)
    rw [skipChain_of_opening o hlead h hskip, next.skipChain_eq (by decide) hnext]
    rw [Chain.length_lines_block, o.length_lines]
    congr 2
    omega
  | .joined o body next, hlead, h => by
    rw [Chain.lines, List.append_assoc, List.append_assoc] at h
    have hskip := skipBlock_of_joined (⟨i, true⟩ :: ifs) _ body next o.below_isBrace h.tail
    have hnext := h.append.append.at_eq
      (j := i + 1 + o.below?.toList.length + body.lines.length) (by rw [o.length_lines]; omega)
    rw [skipChain_of_opening o hlead h hskip, next.skipChain_eq (by decide) hnext]
    rw [Chain.length_lines_joined, o.length_lines]
    congr 2
    omega

/-! ## Lines that follow a conditional on one line -/

theorem skipElses_of_single {l : OneLine .own} (h : p.From i (l.line :: rest)) :
    skipElses ⟨p, i, ifs⟩ = skipElses ⟨p, i + 1, ifs⟩ := by
  have hlone : isLoneElse l.line = true := by
    have hfits := l.fits
    rw [isLoneElse, l.reads, hfits.2]
    dsimp only
    rw [Statement.isElse_single, hfits.1]
    rfl
  rw [skipElses, skipElses, skipWhile, skipWhile]
  dsimp only
  rw [h, h.tail, List.takeWhile_cons_of_pos hlone, List.length_cons]
  congr 1
  omega

theorem skipElses_of_not_lone (h : ∀ l ls, p.From i (l :: ls) → isLoneElse l = false) :
    skipElses ⟨p, i, ifs⟩ = ⟨p, i, ifs⟩ := by
  rw [skipElses, skipWhile]
  dsimp only
  cases hl : p.lines.toList.drop i with
  | nil => rfl
  | cons l ls =>
    rw [List.takeWhile_cons_of_neg (by rw [h l ls hl]; decide)]
    rfl

end Layout

end StreamScript
