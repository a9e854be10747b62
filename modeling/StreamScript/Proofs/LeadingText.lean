import StreamScript.Vars.Substitution

/-!
# What stands in front of the first reference

Putting variables into a text may replace a reference by anything at all, and the
text that comes of it is gone over again.  What stands in front of the first sigil
is not touched by any of this: references are looked for from left to right, so the
first stretch of a text starts with it, and it stays open and first in every pass
(`LeadsWith.pass?`).

Hence the front of a text decides what the text is, whatever the variables hold
(`leads_substitute`).  A reader that looks at the first word alone can therefore be
asked before variables are put in.
-/

namespace StreamScript

namespace Substitution

variable {sg : Sigils} {inner : List Char → Option (List Char)} {front cs r : List Char}
  {segs after : List Segment}

/-- A stretch of text in which no reference starts, with or without an index. -/
def Inert (sg : Sigils) (front : List Char) : Prop :=
  ∀ c ∈ front, isIndexSigil c = false ∧ sg.isSigil c = false

/-- Stretches of which the first is open and starts with the given text. -/
def LeadsWith (front : List Char) (segs : List Segment) : Prop :=
  ∃ rest more, segs = ⟨front ++ rest, false⟩ :: more

theorem LeadsWith.join (h : LeadsWith front segs) : front <+: join segs := by
  obtain ⟨rest, more, rfl⟩ := h
  exact ⟨rest ++ Substitution.join more, (List.append_assoc ..).symm⟩

/-! ## Looking for references with an index -/

/-- What has been passed stands in the first piece. -/
theorem exists_piecesFrom (sg : Sigils) (plain cs : List Char) :
    ∃ rest more, piecesFrom sg plain cs = .stretch ⟨plain.reverse ++ rest, false⟩ :: more := by
  fun_induction piecesFrom sg plain cs with
  | case1 plain => exact ⟨[], [], by rw [List.append_nil]⟩
  | case2 plain c rest _ _ ih =>
    obtain ⟨tail, more, heq⟩ := ih
    exact ⟨c :: tail, more, by rw [heq, List.reverse_cons, List.append_assoc]; rfl⟩
  | case3 plain c rest _ r behind _ _ ih =>
    obtain ⟨tail, more, heq⟩ := ih
    refine ⟨r.text ++ tail, more, ?_⟩
    rw [heq, List.reverse_append, List.reverse_reverse, List.append_assoc]
  | case4 plain => exact ⟨[], _, by rw [List.append_nil]⟩
  | case5 plain c rest _ ih =>
    obtain ⟨tail, more, heq⟩ := ih
    exact ⟨c :: tail, more, by rw [heq, List.reverse_cons, List.append_assoc]; rfl⟩

theorem piecesFrom_append (h : Inert sg front) (plain rest : List Char) :
    piecesFrom sg plain (front ++ rest) = piecesFrom sg (front.reverse ++ plain) rest := by
  induction front generalizing plain with
  | nil => rfl
  | cons c front ih =>
    obtain ⟨hc, hfront⟩ := List.forall_mem_cons.mp h
    rw [List.cons_append, piecesFrom, if_neg (by rw [hc.1]; exact Bool.false_ne_true), ih hfront,
      List.reverse_cons, List.append_assoc]
    rfl

theorem exists_pieces (h : Inert sg front) (rest : List Char) :
    ∃ rest' more, (⟨front ++ rest, false⟩ : Segment).pieces sg =
      .stretch ⟨front ++ rest', false⟩ :: more := by
  obtain ⟨rest', more, heq⟩ := exists_piecesFrom sg (front.reverse ++ []) rest
  refine ⟨rest', more, ?_⟩
  rw [Segment.pieces, if_neg Bool.false_ne_true, piecesFrom_append h, heq, List.append_nil,
    List.reverse_reverse]

/-! ## Expanding references -/

theorem plainPass_append {sigil : Char} (h : ∀ c ∈ front, c ≠ sigil) (rest : List Char) :
    plainPass sg sigil (front ++ rest) = front ++ plainPass sg sigil rest := by
  induction front with
  | nil => rfl
  | cons c front ih =>
    obtain ⟨hc, hfront⟩ := List.forall_mem_cons.mp h
    rw [List.cons_append, plainPass, if_neg hc, ih hfront, List.cons_append]

theorem foldl_plainPass_append (sg : Sigils) (entries : List (Char × List Lookup))
    (h : ∀ c ∈ front, ∀ e ∈ entries, c ≠ e.1) (rest : List Char) :
    ∃ rest', entries.foldl (fun cs e => plainPass sg e.1 cs) (front ++ rest) = front ++ rest' := by
  induction entries generalizing rest with
  | nil => exact ⟨rest, rfl⟩
  | cons e entries ih =>
    rw [List.foldl_cons, plainPass_append fun c hc => h c hc e (List.mem_cons_self ..)]
    exact ih (fun c hc e' he' => h c hc e' (List.mem_cons_of_mem _ he')) _

theorem LeadsWith.map_plainPasses (h : LeadsWith front segs) (hfront : Inert sg front) :
    LeadsWith front (segs.map (plainPasses sg)) := by
  obtain ⟨rest, more, rfl⟩ := h
  have hne : ∀ c ∈ front, ∀ e ∈ sg.entries, c ≠ e.1 := by
    rintro c hc e he rfl
    have hnot := List.any_eq_false.mp (hfront e.1 hc).2 e he
    exact hnot (beq_self_eq_true e.1)
  obtain ⟨rest', heq⟩ := foldl_plainPass_append sg sg.entries hne rest
  refine ⟨rest', more.map (plainPasses sg), ?_⟩
  rw [List.map_cons, plainPasses, if_neg Bool.false_ne_true, heq]

theorem LeadsWith.mergeOpen (h : LeadsWith front segs) : LeadsWith front (mergeOpen segs) := by
  obtain ⟨rest, more, rfl⟩ := h
  rw [Substitution.mergeOpen]
  split
  · exact ⟨rest, [], rfl⟩
  · next next behind _ =>
    split
    · exact ⟨rest ++ next.text, behind, by rw [List.append_assoc]⟩
    · exact ⟨rest, next :: behind, rfl⟩

/-! ## Passes -/

/-- **A pass leaves the front of the text where it is.** -/
theorem LeadsWith.pass? (h : LeadsWith front segs) (hfront : Inert sg front)
    (hpass : pass? sg inner segs = some after) : LeadsWith front after := by
  obtain ⟨found, hfound, rfl⟩ := Option.map_eq_some_iff.mp hpass
  obtain ⟨rest, more, rfl⟩ := h
  obtain ⟨rest', pieces, hpieces⟩ := exists_pieces hfront rest
  rw [List.flatMap_cons, hpieces, List.cons_append, List.mapM_cons] at hfound
  obtain ⟨seg, hseg, hfound⟩ := Option.bind_eq_some_iff.mp hfound
  obtain ⟨segs, -, hsegs⟩ := Option.bind_eq_some_iff.mp hfound
  obtain rfl := Option.some.inj hseg
  obtain rfl := Option.some.inj hsegs
  have hfirst : LeadsWith front (⟨front ++ rest', false⟩ :: segs) := ⟨rest', segs, rfl⟩
  exact hfirst.mergeOpen.map_plainPasses hfront

theorem LeadsWith.passes {n : Nat} (h : LeadsWith front segs) (hfront : Inert sg front)
    (hpasses : passes sg inner n segs = some r) : front <+: r := by
  induction n generalizing segs with
  | zero =>
    obtain rfl := Option.some.inj hpasses
    exact h.join
  | succ n ih =>
    rw [Substitution.passes] at hpasses
    cases hpass : Substitution.pass? sg inner segs with
    | none => rw [hpass] at hpasses; cases hpasses
    | some after =>
      rw [hpass] at hpasses
      have hafter := h.pass? hfront hpass
      dsimp only at hpasses
      split at hpasses
      · obtain rfl := Option.some.inj hpasses
        exact hafter.join
      · exact ih hafter hpasses

theorem prefix_of_expand? (hfront : Inert sg front) (hcs : front <+: cs)
    (h : expand? sg inner cs = some r) : front <+: r := by
  rw [expand?] at h
  split at h
  · obtain ⟨rest, rfl⟩ := hcs
    exact LeadsWith.passes ⟨rest, [], rfl⟩ hfront h
  · obtain rfl := Option.some.inj h
    exact hcs

end Substitution

/-- **Putting variables into a text leaves alone what stands in front of the first reference.** -/
theorem Sigils.leads_substitute {sg : Sigils} {front : List Char} {text : String}
    (hfront : Substitution.Inert sg front) (h : front <+: text.toList) :
    front <+: (sg.substitute text).toList := by
  rw [substitute]
  split
  · next cs hcs =>
    rw [Substitution.result?] at hcs
    rw [String.toList_ofList]
    exact Substitution.prefix_of_expand? hfront h hcs
  · exact h

end StreamScript
