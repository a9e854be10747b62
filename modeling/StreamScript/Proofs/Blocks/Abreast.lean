import Mathlib.Data.List.Forall2
import StreamScript.Proofs.Blocks.Conditionals

/-!
# Walking beside a comment

Put a comment between two lines of a program.  A script that walks the new program
should keep up with one that walks the old one: as long as they stand in front of
the same line they are abreast (`Abreast`), and in between one of them may still
have the comment in front of it (`Near`).

A comment that is carried out does nothing, but one that is passed over, or that
stands where a script looks for an `else`, is not like the absence of a line.
`Commented` names what a comment must not part.  Under these conditions passing over
a block or over the rest of a chain keeps two walks together (`Beside.skipBlock`,
`Beside.skipChain`).

Passing over lines is a recursion with one case for every kind of line.  `passLine`
tells these cases from the recursion, so that what one line does to two walks is
compared once (`passLine_alike`) and the induction is only about places.
-/

namespace StreamScript

namespace Statement

/-- Whether a statement stands in a structured script: it opens or closes a block, ends the script,
or lets the next line run. -/
def isStraight : Statement → Bool
  | .block .. | .leftBrace | .rightBrace | .exit | .random .. => true
  | s => s.isDirect

theorem isSingle_of_isStraight {s : Statement} (h : s.isStraight = true) : s.isSingle = false := by
  cases s with
  | single => cases h
  | _ => rfl

end Statement

/-! ## Places -/

/-- Two places in front of the same line, of which the second counts a comment at `n`. -/
def Abreast (n k k' : Nat) : Prop :=
  k < n ∧ k' = k ∨ n ≤ k ∧ k' = k + 1

/-- Two places with no line between them but perhaps the comment at `n`. -/
def Near (n k k' : Nat) : Prop :=
  Abreast n k k' ∨ k = n ∧ k' = n

theorem Abreast.near {n k k' : Nat} (h : Abreast n k k') : Near n k k' :=
  .inl h

theorem Abreast.succ {n k k' : Nat} (h : Abreast n k k') : Near n (k + 1) (k' + 1) := by
  unfold Near Abreast at *
  omega

namespace Program

/-- Two programs, the second of which has a comment more, at the index `n`.  It parts no conditional
from its brace, no brace from the `else` below it, and no inner block that closes from the brace of
an `else` that closes the outer one. -/
structure Commented (n : Nat) (p p' : Program) : Prop where
  comment : ∃ text, p'.statement? n = some (.comment text)
  text {k k' : Nat} (h : Abreast n k k') : p'.lines[k']?.map Line.text = p.lines[k]?.map Line.text
  isStraight {k : Nat} {s : Statement} (h : p.statement? k = some s) : s.isStraight = true
  brace : p.statement? n ≠ some .leftBrace
  closes {line : Line} {s : Statement} (h : p.lines[n]? = some line)
    (hs : line.statement? = some s) (helse : s.isElse = true) : line.closesBlock = true
  behind {k : Nat} (h : k + 1 = n) (hbrace : p.statement? k = some .rightBrace) :
    p.isElseAt n = false

namespace Commented

variable {n k k' : Nat} {p p' : Program}

/-- Lines abreast have the same text, and so the same statement. -/
theorem line (h : Commented n p p') (hk : Abreast n k k') {line : Line}
    (hline : p.lines[k]? = some line) : ∃ line', p'.lines[k']? = some line' ∧
      line'.text = line.text ∧ line'.statement? = line.statement? := by
  have htext := h.text hk
  rw [hline, Option.map_some, Option.map_eq_some_iff] at htext
  obtain ⟨line', hline', htext⟩ := htext
  exact ⟨line', hline', htext, Line.statement?_of_text htext⟩

theorem noLine (h : Commented n p p') (hk : Abreast n k k') (hline : p.lines[k]? = none) :
    p'.lines[k']? = none := by
  have htext := h.text hk
  rwa [hline, Option.map_none, Option.map_eq_none_iff] at htext

theorem statement? (h : Commented n p p') (hk : Abreast n k k') :
    p'.statement? k' = p.statement? k := by
  rw [Program.statement?, Program.statement?]
  cases hline : p.lines[k]? with
  | none => rw [h.noLine hk hline]
  | some line =>
    obtain ⟨line', hline', -, hs⟩ := h.line hk hline
    rw [hline', Option.bind_some, Option.bind_some, hs]

theorem isElseAt (h : Commented n p p') (hk : Abreast n k k') :
    p'.isElseAt k' = p.isElseAt k := by
  rw [Program.isElseAt, Program.isElseAt, h.statement? hk]

theorem isElseAt_comment (h : Commented n p p') : p'.isElseAt n = false := by
  obtain ⟨text, hs⟩ := h.comment
  rw [Program.isElseAt, hs]
  rfl

/-- Neither program has a one-line conditional. -/
theorem isStraight' (h : Commented n p p') {s : Statement} (hs : p'.statement? k' = some s) :
    s.isStraight = true := by
  obtain hlt | rfl | hgt := Nat.lt_trichotomy k' n
  · exact h.isStraight ((h.statement? (.inl ⟨hlt, rfl⟩)).symm.trans hs)
  · obtain ⟨text, hcomment⟩ := h.comment
    rw [hcomment] at hs
    obtain rfl := Option.some.inj hs
    rfl
  · obtain ⟨k, rfl⟩ := Nat.exists_eq_add_of_le' (Nat.one_le_of_lt hgt)
    exact h.isStraight ((h.statement? (.inr ⟨Nat.le_of_lt_succ hgt, rfl⟩)).symm.trans hs)

/-- A script with a brace in front of it is abreast of the other. -/
theorem leftBrace_iff (h : Commented n p p') (hk : Near n k k') :
    p'.statement? k' = some .leftBrace ↔ p.statement? k = some .leftBrace := by
  obtain hk | ⟨rfl, rfl⟩ := hk
  · rw [h.statement? hk]
  · obtain ⟨text, hcomment⟩ := h.comment
    rw [hcomment]
    exact iff_of_false (by simp) h.brace

theorem abreast_of_statement? (h : Commented n p p') (hk : Near n k k')
    (hbrace : p.statement? k = some .leftBrace) : Abreast n k k' := by
  obtain hk | ⟨rfl, -⟩ := hk
  · exact hk
  · exact absurd hbrace h.brace

/-- So is one with an `else` in front of it, if the other has one too. -/
theorem abreast_of_isElseAt (h : Commented n p p') (hk : Near n k k')
    (heq : p'.isElseAt k' = p.isElseAt k) (helse : p.isElseAt k = true) : Abreast n k k' := by
  obtain hk | ⟨rfl, rfl⟩ := hk
  · exact hk
  · rw [helse, h.isElseAt_comment] at heq
    cases heq

/-- Behind a brace that closes a block, the two have an `else` in front of them or neither has. -/
theorem isElseAt_succ (h : Commented n p p') (hk : Abreast n k k')
    (hbrace : p.statement? k = some .rightBrace) :
    p'.isElseAt (k' + 1) = p.isElseAt (k + 1) := by
  obtain hsucc | ⟨hn, hn'⟩ := hk.succ
  · exact h.isElseAt hsucc
  · rw [hn', hn, h.isElseAt_comment, h.behind hn hbrace]

end Commented

end Program

/-! ## Passing over lines -/

/-- Open conditionals that have been satisfied alike. -/
abbrev SameFrames : List Frame → List Frame → Prop :=
  List.Forall₂ fun frame frame' => frame'.satisfied = frame.satisfied

/-- What a line is to someone who passes over it. -/
inductive Role where
  | plain
  /-- A brace that opens a block. -/
  | brace
  /-- A brace that closes one. -/
  | closes
  /-- The first part of a chain, with its body on the same line or in a block. -/
  | starts (single : Bool)
  /-- Another part, which may close the block of the one before. -/
  | continues (joined opens : Bool)

/-- The role of a line. -/
def Line.role (line : Line) : Role :=
  match line.statement? with
  | none => .plain
  | some s =>
      if s.startsChain then .starts s.isSingle
      else if s.isElse then .continues line.closesBlock s.opensBlock
      else
        match s with
        | .rightBrace => .closes
        | .leftBrace => .brace
        | _ => .plain

theorem Line.role_of_text {l l' : Line} (h : l'.text = l.text) : l'.role = l.role := by
  rw [role, role, statement?_of_text h, closesBlock, closesBlock, h]

/-- What the role of a line says about its statement. -/
theorem Line.role_cases (line : Line) : line.role = .plain ∨
    line.role = .brace ∧ line.statement? = some .leftBrace ∨
    line.role = .closes ∧ line.statement? = some .rightBrace ∨
    (∃ single, line.role = .starts single) ∨
    ∃ s opens, line.role = .continues line.closesBlock opens ∧ line.statement? = some s ∧
      s.isElse = true := by
  rw [role]
  cases line.statement? with
  | none => exact .inl rfl
  | some s =>
    dsimp only
    cases hstarts : s.startsChain with
    | true => exact .inr (.inr (.inr (.inl ⟨_, rfl⟩)))
    | false =>
      cases helse : s.isElse with
      | true => exact .inr (.inr (.inr (.inr ⟨s, _, rfl, rfl, helse⟩)))
      | false =>
        cases s with
        | leftBrace => exact .inr (.inl ⟨rfl, rfl⟩)
        | rightBrace => exact .inr (.inr (.inl ⟨rfl, rfl⟩))
        | _ => exact .inl rfl

theorem Line.statement?_of_closes {line : Line} (h : line.role = .closes) :
    line.statement? = some .rightBrace := by
  obtain hrole | ⟨hrole, -⟩ | ⟨-, hs⟩ | ⟨single, hrole⟩ | ⟨s, opens, hrole, -⟩ := line.role_cases
  · cases h.symm.trans hrole
  · cases h.symm.trans hrole
  · exact hs
  · cases h.symm.trans hrole
  · cases h.symm.trans hrole

namespace Walk

/-- What comes of passing over a line: it ends there, or it goes on with what is open then, and with
whether the line belongs to a chain. -/
inductive Passed where
  | stop (stop : BlockStop)
  | on (opened : List Frame) (chained : Bool)

/-- Passes over a line with the given index. -/
def passLine (opened : List Frame) (chained : Bool) (idx : Nat) : Role → Passed
  | .plain => .on opened false
  | .brace => .on opened chained
  | .closes =>
      match opened with
      | [] => .stop .brace
      | _ :: outer => .on outer true
  | .starts true => .on opened true
  | .starts false => .on (⟨idx, false⟩ :: opened) false
  | .continues true opens =>
      match opened with
      | [] => .stop .sibling
      | _ :: outer => if opens then .on (⟨idx, false⟩ :: outer) false else .on outer true
  | .continues false opens =>
      if opened.isEmpty && !chained then .stop .sibling
      else if opens then .on (⟨idx, false⟩ :: opened) false
      else .on opened chained

/-- The lines that are left are passed over in the same way. -/
def Passed.skip (idx : Nat) (rest : List Line) : Passed → Skip
  | .stop .sibling => ⟨some .sibling, idx, []⟩
  | .stop .brace => ⟨some .brace, idx + 1, []⟩
  | .on opened chained => skipLines opened chained (idx + 1) rest

/-- The role of a line is all that matters about it. -/
theorem skipLines_cons (opened : List Frame) (chained : Bool) (idx : Nat) (line : Line)
    (rest : List Line) :
    skipLines opened chained idx (line :: rest) =
      (passLine opened chained idx line.role).skip idx rest := by
  rw [skipLines.eq_def, Line.role]
  dsimp only
  cases line.statement? with
  | none => rfl
  | some s =>
    dsimp only
    cases s.startsChain with
    | true => cases s.isSingle <;> rfl
    | false =>
      cases s.isElse with
      | true =>
        cases line.closesBlock with
        | true =>
          cases opened with
          | nil => rfl
          | cons => cases s.opensBlock <;> rfl
        | false =>
          simp only [passLine, Bool.false_eq_true, if_false, if_true]
          cases opened.isEmpty && !chained with
          | true => rfl
          | false => cases s.opensBlock <;> rfl
      | false =>
        cases s with
        | rightBrace => cases opened <;> rfl
        | _ => rfl

/-- The same for two walks. -/
inductive Passed.Alike : Passed → Passed → Prop where
  | stop (stop : BlockStop) : Alike (.stop stop) (.stop stop)
  | on {opened opened' : List Frame} (h : SameFrames opened opened') (chained : Bool) :
      Alike (.on opened chained) (.on opened' chained)

/-- **A line does the same to two walks.**  Where it stands does not matter. -/
theorem passLine_alike {opened opened' : List Frame} (h : SameFrames opened opened')
    (chained : Bool) (idx idx' : Nat) (role : Role) :
    (passLine opened chained idx role).Alike (passLine opened' chained idx' role) := by
  have hpush {fs fs' : List Frame} (h : SameFrames fs fs') :
      SameFrames (⟨idx, false⟩ :: fs) (⟨idx', false⟩ :: fs') := .cons rfl h
  cases role with
  | plain | brace => exact .on h _
  | closes =>
    cases h with
    | nil => exact .stop _
    | cons _ houter => exact .on houter _
  | starts single =>
    cases single with
    | true => exact .on h _
    | false => exact .on (hpush h) _
  | continues joined opens =>
    cases joined with
    | true =>
      cases h with
      | nil => exact .stop _
      | cons _ houter =>
        cases opens with
        | true => exact .on (hpush houter) _
        | false => exact .on houter _
    | false =>
      have hempty : opened'.isEmpty = opened.isEmpty := by cases h <;> rfl
      rw [passLine, passLine, hempty]
      cases opened.isEmpty && !chained with
      | true => exact .stop _
      | false =>
        cases opens with
        | true => exact .on (hpush h) _
        | false => exact .on h _

/-! ### Places on the way -/

/-- Where passing over the lines of a program from an index on ends. -/
def skipFrom (p : Program) (opened : List Frame) (chained : Bool) (k : Nat) : Skip :=
  skipLines opened chained k (p.lines.toList.drop k)

theorem skipFrom_of_line {p : Program} {k : Nat} {line : Line} (h : p.lines[k]? = some line)
    (opened : List Frame) (chained : Bool) :
    skipFrom p opened chained k =
      (passLine opened chained k line.role).skip k (p.lines.toList.drop (k + 1)) := by
  rw [← Array.getElem?_toList] at h
  rw [skipFrom, List.drop_eq_getElem?_toList_append, h, Option.toList_some, List.singleton_append,
    skipLines_cons]

theorem skipFrom_of_none {p : Program} {k : Nat} (h : p.lines[k]? = none) (opened : List Frame)
    (chained : Bool) : skipFrom p opened chained k = ⟨none, k, opened⟩ := by
  have hsize := Array.getElem?_eq_none_iff.mp h
  rw [skipFrom, List.drop_eq_nil_of_le (by rwa [Array.length_toList]), skipLines]

/-- Where two walks come out is near, and either both have an `else` in front of them there or
neither has. -/
structure Skip.Alike (n : Nat) (p p' : Program) (skip skip' : Skip) : Prop where
  stop : skip'.stop? = skip.stop?
  next : Near n skip.next skip'.next
  opened : SameFrames skip.opened skip'.opened
  isElse : p'.isElseAt skip'.next = p.isElseAt skip.next

variable {n : Nat} {p p' : Program}

/-- One walk passes over the comment. -/
theorem skipFrom_comment (h : p.Commented n p') (opened : List Frame) (chained : Bool) :
    skipFrom p' opened chained n = skipFrom p' opened false (n + 1) := by
  obtain ⟨text, hs⟩ := h.comment
  obtain ⟨line, hline, hs⟩ := Option.bind_eq_some_iff.mp hs
  have hrole : line.role = .plain := by rw [Line.role, hs]; rfl
  rw [skipFrom_of_line hline, hrole]
  rfl

/-- What stands behind the comment does not ask what was passed over before it. -/
theorem skipFrom_behind_comment (h : p.Commented n p') (opened : List Frame) (chained : Bool) :
    skipFrom p opened chained n = skipFrom p opened false n := by
  cases hline : p.lines[n]? with
  | none => rw [skipFrom_of_none hline, skipFrom_of_none hline]
  | some line =>
    have hbrace : line.statement? ≠ some .leftBrace := fun hs =>
      h.brace (by rw [Program.statement?, hline, Option.bind_some, hs])
    rw [skipFrom_of_line hline, skipFrom_of_line hline]
    congr 1
    obtain hrole | ⟨-, hs⟩ | ⟨hrole, -⟩ | ⟨single, hrole⟩ | ⟨s, opens, hrole, hs, helse⟩ :=
      line.role_cases
    · rw [hrole]; rfl
    · exact absurd hs hbrace
    · rw [hrole]; rfl
    · rw [hrole]; cases single <;> rfl
    · rw [hrole, h.closes hline hs helse]; rfl

theorem role_of_stop_brace {opened : List Frame} {chained : Bool} {idx : Nat} {role : Role}
    (h : passLine opened chained idx role = .stop .brace) : role = .closes := by
  cases role with
  | closes => rfl
  | plain | brace => cases h
  | starts single => cases single <;> cases h
  | continues joined opens =>
    cases joined with
    | true =>
      cases opened with
      | nil => cases h
      | cons => cases opens <;> cases h
    | false =>
      rw [passLine] at h
      revert h
      cases opened.isEmpty && !chained <;> cases opens <;> exact nofun

/-- **Two walks that pass over lines come out together.**  The induction is on the lines that are
left; the comment takes one of the walks one line further. -/
theorem skipFrom_alike (h : p.Commented n p') {k k' : Nat} (hk : Near n k k')
    {opened opened' : List Frame} (hopened : SameFrames opened opened') (chained : Bool) :
    (skipFrom p opened chained k).Alike n p p' (skipFrom p' opened' chained k') := by
  induction hm : p.lines.size - k using Nat.strongRecOn
    generalizing k k' opened opened' chained with
  | ind m ih =>
    subst hm
    have habreast {k'} (hk : Abreast n k k') (chained : Bool) :
        (skipFrom p opened chained k).Alike n p p' (skipFrom p' opened' chained k') := by
      cases hline : p.lines[k]? with
      | none =>
        rw [skipFrom_of_none hline, skipFrom_of_none (h.noLine hk hline)]
        exact ⟨rfl, hk.near, hopened, h.isElseAt hk⟩
      | some line =>
        obtain ⟨line', hline', htext, -⟩ := h.line hk hline
        have hlt : k < p.lines.size := (Array.getElem?_eq_some_iff.mp hline).1
        have halike := passLine_alike hopened chained k k' line.role
        rw [skipFrom_of_line hline, skipFrom_of_line hline', Line.role_of_text htext]
        generalize hpass : passLine opened chained k line.role = passed at halike ⊢
        generalize passLine opened' chained k' line.role = passed' at halike ⊢
        cases halike with
        | stop stop =>
          cases stop with
          | sibling => exact ⟨rfl, hk.near, .nil, h.isElseAt hk⟩
          | brace =>
            have hs := Line.statement?_of_closes (role_of_stop_brace hpass)
            have hbrace : p.statement? k = some .rightBrace := by
              rw [Program.statement?, hline, Option.bind_some, hs]
            exact ⟨rfl, hk.succ, .nil, h.isElseAt_succ hk hbrace⟩
        | on hopened chained =>
          exact ih (p.lines.size - (k + 1)) (by omega) hk.succ hopened chained rfl
    obtain hk | ⟨rfl, rfl⟩ := hk
    · exact habreast hk chained
    · rw [skipFrom_comment h, skipFrom_behind_comment h]
      exact habreast (.inr ⟨Nat.le_refl _, rfl⟩) false

/-! ## Two walks -/

theorem exists_of_isElseAt {k : Nat} (h : p.isElseAt k = true) :
    ∃ s, p.statement? k = some s ∧ s.isElse = true := by
  rw [Program.isElseAt] at h
  split at h
  · next s hs => exact ⟨s, hs, h⟩
  · cases h

theorem skipChain_of_isElseAt {w : Walk} (h : w.program.isElseAt w.next = false) :
    w.skipChain = (true, w) := by
  refine Layout.skipChain_of_not_else fun s hs => ?_
  rw [nextStatement?] at hs
  rwa [Program.isElseAt, hs] at h

/-- The block of an `else` that a walk passes over. -/
def elseBlock (w : Walk) : Walk :=
  push { w with next := w.next + 1 } ⟨w.next, true⟩

theorem skipChain_of_else {w : Walk} {s : Statement} (hs : w.nextStatement? = some s)
    (helse : s.isElse = true) (hsingle : s.isSingle = false) :
    w.skipChain =
      match w.elseBlock.skipBlock.1 with
      | none => (false, w.elseBlock.skipBlock.2.pop)
      | some _ => w.elseBlock.skipBlock.2.pop.skipChain := by
  rw [skipChain]
  split
  · next h => rw [h] at hs; cases hs
  · next s' h =>
    obtain rfl := Option.some.inj (h.symm.trans hs)
    rw [helse, hsingle]
    rfl

/-- Two walks that have only the comment between them, and have the same conditionals open. -/
structure Beside (n : Nat) (p p' : Program) (w w' : Walk) : Prop where
  program : w.program = p
  program' : w'.program = p'
  next : Near n w.next w'.next
  ifs : SameFrames w.ifs w'.ifs

namespace Beside

variable {w w' : Walk}

theorem push (h : Beside n p p' w w') {frame frame' : Frame}
    (hframe : frame'.satisfied = frame.satisfied) :
    Beside n p p' (w.push frame) (w'.push frame') :=
  { h with ifs := .cons hframe h.ifs }

theorem pop (h : Beside n p p' w w') : Beside n p p' w.pop w'.pop := by
  have htail {fs fs' : List Frame} (h : SameFrames fs fs') : SameFrames fs.tail fs'.tail := by
    cases h with
    | nil => exact .nil
    | cons _ houter => exact houter
  exact { h with ifs := htail h.ifs }

theorem replaceTop (h : Beside n p p' w w') {frame frame' : Frame}
    (hframe : frame'.satisfied = frame.satisfied) :
    Beside n p p' (w.replaceTop frame) (w'.replaceTop frame') :=
  h.pop.push hframe

/-- **Passing over the block just opened keeps two walks together.** -/
theorem skipBlock (hc : p.Commented n p') (h : Beside n p p' w w') :
    w'.skipBlock.1 = w.skipBlock.1 ∧ Beside n p p' w.skipBlock.2 w'.skipBlock.2 ∧
      p'.isElseAt w'.skipBlock.2.next = p.isElseAt w.skipBlock.2.next := by
  obtain ⟨rfl, rfl, hnext, hifs⟩ := h
  obtain ⟨hstop, hnext, hopened, helse⟩ := skipFrom_alike hc hnext .nil false
  exact ⟨hstop, ⟨rfl, rfl, hnext, List.rel_append hopened hifs⟩, helse⟩

/-- **So does passing over the rest of a chain**, if both have an `else` in front of them or neither
has. -/
theorem skipChain (hc : p.Commented n p') (h : Beside n p p' w w')
    (helse : p'.isElseAt w'.next = p.isElseAt w.next) :
    w'.skipChain.1 = w.skipChain.1 ∧ Beside n p p' w.skipChain.2 w'.skipChain.2 := by
  induction hm : p.lines.size - w.next using Nat.strongRecOn generalizing w w' with
  | ind m ih =>
    subst hm
    obtain ⟨rfl, rfl, hnext, hifs⟩ := id h
    cases hisElse : w.program.isElseAt w.next with
    | false =>
      rw [skipChain_of_isElseAt hisElse, skipChain_of_isElseAt (helse.trans hisElse)]
      exact ⟨rfl, h⟩
    | true =>
      have hk := hc.abreast_of_isElseAt hnext helse hisElse
      obtain ⟨s, hs, hselse⟩ := exists_of_isElseAt hisElse
      have hs' : w'.nextStatement? = some s := (hc.statement? hk).trans hs
      have hsingle := Statement.isSingle_of_isStraight (hc.isStraight hs)
      have hinner : Beside n w.program w'.program w.elseBlock w'.elseBlock :=
        ⟨rfl, rfl, hk.succ, .cons rfl hifs⟩
      obtain ⟨hstop, hbeside, helse'⟩ := hinner.skipBlock hc
      rw [skipChain_of_else hs hselse hsingle, skipChain_of_else hs' hselse hsingle, hstop]
      cases w.elseBlock.skipBlock.1 with
      | none => exact ⟨rfl, hbeside.pop⟩
      | some stop =>
        have hlt : w.next < w.program.lines.size := lt_size_of_nextStatement? hs
        have hle : w.next + 1 ≤ w.elseBlock.skipBlock.2.pop.next := le_next_skipBlock w.elseBlock
        exact ih _ (by omega) hbeside.pop helse' rfl

end Beside

end Walk

end StreamScript
