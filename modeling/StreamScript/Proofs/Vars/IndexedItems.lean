import StreamScript.Proofs.Numerals
import StreamScript.Proofs.Vars.Settling

/-!
# Items of a list, by position

A reference with an index in decimal digits asks for an item of a list.  It becomes
that item, and stays as it was written when the list has no such item.

There are two exceptions (`result?_item_iff`).  The list without items is written like
the list whose one item is empty, so at position zero it has that item.  And a position
that no signed word of 64 bits holds is not beyond the end of the list: it is read as
no number, and the whole list is put in front of the brackets.

What the reference becomes is not gone over again, whichever way it goes: an item has
no references in it, and the other two results are protected (`result?_of_choose`).
-/

namespace StreamScript

open Text Number

namespace Substitution

variable {sg : Sigils} {inner : List Char → Option (List Char)} {r : Indexed} {list : List Char}
  {items : List (List Char)} {seg : Segment}

/-! ## What stands in the place of a reference -/

/-- The position that an index in decimal digits asks for. -/
def Indexed.position (r : Indexed) : Nat :=
  Nat.ofDigitChars 10 r.index 0

/-- The text of a list: its items with bars between them. -/
def barred (items : List (List Char)) : List Char :=
  ['|'].intercalate items

/-- What is read from the text of a list that has no items is one empty item. -/
theorem splitAt_barred (hbars : ∀ item ∈ items, '|' ∉ item) :
    splitAt '|' (barred items) = if items = [] then [[]] else items := by
  rw [splitAt_eq_splitOn, barred]
  split
  · next hnil => rw [hnil]; rfl
  · next hne => exact List.splitOn_intercalate '|' hbars hne

theorem barred_cons_cons (item next : List Char) (items : List (List Char)) :
    barred (item :: next :: items) = item ++ '|' :: barred (next :: items) := by
  rw [barred, List.intercalate_cons_cons, List.append_assoc]
  rfl

theorem mem_barred {c : Char} (h : c ∈ barred items) : c = '|' ∨ ∃ item ∈ items, c ∈ item := by
  induction items with
  | nil => cases h
  | cons item items ih =>
    cases items with
    | nil => exact .inr ⟨item, List.mem_singleton_self item, by simpa [barred] using h⟩
    | cons next items =>
      rw [barred_cons_cons, List.mem_append, List.mem_cons] at h
      rcases h with hmem | rfl | hmem
      · exact .inr ⟨item, List.mem_cons_self .., hmem⟩
      · exact .inl rfl
      · exact (ih hmem).imp id fun ⟨other, hother, hc⟩ =>
          ⟨other, List.mem_cons_of_mem _ hother, hc⟩

theorem length_le_barred {item : List Char} (h : item ∈ items) :
    item.length ≤ (barred items).length := by
  induction items with
  | nil => cases h
  | cons first items ih =>
    cases items with
    | nil =>
      rw [List.mem_singleton.mp h, barred, List.intercalate_singleton]
    | cons next items =>
      rw [barred_cons_cons, List.length_append, List.length_cons]
      rcases List.mem_cons.mp h with rfl | hmem
      · omega
      · have := ih hmem
        omega

/-- A list with more behind it is neither one of its items nor a reference. -/
theorem barred_append_ne (hopener : r.opener ≠ r.sigil) (hfree : r.sigil ∉ barred items)
    (position : Nat) (tail : List Char) :
    barred items ++ r.opener :: tail ≠ items[position]?.getD r.text := by
  intro heq
  cases hitem : items[position]? with
  | some item =>
    have hle := length_le_barred (List.mem_of_getElem? hitem)
    have hlength := congrArg List.length heq
    rw [hitem, Option.getD_some, List.length_append, List.length_cons] at hlength
    omega
  | none =>
    rw [hitem, Option.getD_none, Indexed.text] at heq
    cases hbarred : barred items with
    | nil =>
      rw [hbarred] at heq
      exact hopener (List.cons.inj heq).1
    | cons c cs =>
      rw [hbarred] at heq hfree
      exact hfree ((List.cons.inj heq).1 ▸ List.mem_cons_self ..)

theorem choose_of_isDigit (hr : r.WellFormed) (hdigits : ∀ c ∈ r.index, c.isDigit = true)
    (list : List Char) :
    choose r list r.index =
      if r.position < 2 ^ 63 then
        match (splitAt '|' list)[r.position]? with
        | some item => ⟨item, false⟩
        | none => ⟨r.text, true⟩
      else ⟨list ++ r.opener :: r.index ++ [r.closer], true⟩ := by
  have hread : readInt64? r.index =
      if r.position < 2 ^ 63 then some (Int64.ofInt r.position) else none :=
    readInt64?_of_isDigit hr.index_ne hdigits
  by_cases hlt : r.position < 2 ^ 63
  · have hvalue : (Int64.ofInt r.position).toInt = r.position :=
      Int64.toInt_ofInt_of_le (by omega) (by omega)
    rw [choose, trim_of_isDigit hdigits, hread.trans (if_pos hlt), if_pos hlt]
    dsimp only
    rewrite [hvalue, if_pos (Int.natCast_nonneg _), Int.toNat_natCast]
    rfl
  · rw [choose, trim_of_isDigit hdigits, hread.trans (if_neg hlt), if_neg hlt]

/-! ## All passes over a reference -/

/-- A stretch that no pass changes: it is protected, or no sigil stands in it. -/
def Segment.Rests (sg : Sigils) (seg : Segment) : Prop :=
  seg.isProtected = true ∨ ∀ c ∈ seg.text, sg.isSigil c = false

theorem pieces_text (hr : r.WellFormed) (hsigil : isIndexSigil r.sigil = true)
    (hlist : sg.lookup r.sigil r.name = some list) :
    (⟨r.text, false⟩ : Segment).pieces sg =
      [.stretch ⟨[], false⟩, .item r list, .stretch ⟨[], false⟩] := by
  have htext := r.text_append []
  rw [List.append_nil] at htext
  have hread : readIndexed? r.sigil (r.name ++ r.opener :: (r.index ++ [r.closer])) =
      some (r, []) :=
    readIndexed?_eq_some_iff.mpr ⟨rfl, hr, by rw [← htext, List.append_nil]⟩
  rw [Segment.pieces, if_neg Bool.false_ne_true]
  dsimp only
  rw [htext, piecesFrom, if_pos hsigil]
  split
  · next hnone => rw [hread] at hnone; cases hnone
  · next r' more hsome =>
    obtain ⟨rfl, rfl⟩ := Prod.mk.inj (Option.some.inj (hread.symm.trans hsome))
    rw [hlist]
    dsimp only
    rw [piecesFrom]
    rfl

theorem pass?_protected (text : List Char) :
    pass? sg inner [⟨[], false⟩, ⟨text, true⟩, ⟨[], false⟩] =
      some (afterPass sg [⟨[], false⟩, ⟨text, true⟩, ⟨[], false⟩]) := by
  have hempty : (⟨[], false⟩ : Segment).pieces sg = [.stretch ⟨[], false⟩] := by
    rw [Segment.pieces, if_neg Bool.false_ne_true, piecesFrom]
    rfl
  rw [pass?, List.flatMap_cons, List.flatMap_cons, List.flatMap_cons, hempty]
  rfl

theorem afterPass_protected (text : List Char) :
    afterPass sg [⟨[], false⟩, ⟨text, true⟩, ⟨[], false⟩] =
      [⟨[], false⟩, ⟨text, true⟩, ⟨[], false⟩] := by
  have hempty : plainPasses sg ⟨[], false⟩ = ⟨[], false⟩ :=
    congrArg (Segment.mk · false) (plainText_of_isSigil fun c hc => nomatch hc)
  change [plainPasses sg ⟨[], false⟩, plainPasses sg ⟨text, true⟩, plainPasses sg ⟨[], false⟩] = _
  rw [hempty]
  rfl

theorem afterPass_open {text : List Char} (h : ∀ c ∈ text, sg.isSigil c = false) :
    afterPass sg [⟨[], false⟩, ⟨text, false⟩, ⟨[], false⟩] = [⟨text, false⟩] := by
  change [plainPasses sg ⟨[] ++ (text ++ []), false⟩] = _
  rw [List.append_nil]
  exact congrArg (fun cs => [Segment.mk cs false]) (plainText_of_isSigil h)

/-- What a pass makes of a reference stays. -/
theorem Segment.Rests.pass?_afterPass (h : seg.Rests sg)
    (inner : List Char → Option (List Char)) :
    join (afterPass sg [⟨[], false⟩, seg, ⟨[], false⟩]) = seg.text ∧
      pass? sg inner (afterPass sg [⟨[], false⟩, seg, ⟨[], false⟩]) =
        some (afterPass sg [⟨[], false⟩, seg, ⟨[], false⟩]) := by
  obtain ⟨text, isProtected⟩ := seg
  cases isProtected with
  | true =>
    rw [afterPass_protected]
    refine ⟨List.append_nil text, (pass?_protected text).trans ?_⟩
    rw [afterPass_protected]
  | false =>
    have hplain : ∀ c ∈ text, sg.isSigil c = false := h.resolve_left Bool.false_ne_true
    rw [afterPass_open hplain, pass?_of_unlisted (unlisted_of_isSigil hplain),
      plainText_of_isSigil hplain]
    exact ⟨join_open text, rfl⟩

/-- A reference becomes what is chosen for it. -/
theorem result?_of_choose (hr : r.WellFormed) (hsigil : isIndexSigil r.sigil = true)
    (hlist : sg.lookup r.sigil r.name = some list)
    (hindex : ∀ c ∈ r.index, sg.isSigil c = false) (hrests : (choose r list r.index).Rests sg) :
    result? sg r.text = some (choose r list r.index).text := by
  have hany : r.text.any sg.isSigil = true :=
    List.any_eq_true.mpr ⟨r.sigil, List.mem_cons_self .., isSigil_of_lookup hlist⟩
  have hpass : pass? sg (fun idx => result? sg idx) [⟨r.text, false⟩] =
      some (afterPass sg [⟨[], false⟩, choose r list r.index, ⟨[], false⟩]) := by
    have hitem : (Piece.item r list).resolve? (fun idx => result? sg idx) =
        some (choose r list r.index) := by
      rw [Piece.resolve?, result?_of_isSigil hindex, Option.map_some]
    rw [pass?, List.flatMap_singleton, pieces_text hr hsigil hlist, List.mapM_cons, List.mapM_cons,
      hitem]
    rfl
  obtain ⟨hjoin, hfixed⟩ := hrests.pass?_afterPass fun idx => result? sg idx
  rw [result?, expand?, if_pos hany, maxPasses, passes_of_pass? hpass hfixed, hjoin]

/-! ## The item at a position -/

section Position

variable (hr : r.WellFormed) (hsigil : isIndexSigil r.sigil = true)
  (hdigits : ∀ c ∈ r.index, c.isDigit = true) (hindex : ∀ c ∈ r.index, sg.isSigil c = false)
  (hlist : sg.lookup r.sigil r.name = some (barred items))
  (hbars : ∀ item ∈ items, '|' ∉ item)
  (hitems : ∀ item ∈ items, ∀ c ∈ item, sg.isSigil c = false)

include hr hsigil hdigits hindex hlist hbars hitems

/-- What a reference with an index in decimal digits becomes. -/
theorem result?_of_isDigit :
    result? sg r.text = some (if r.position < 2 ^ 63 then
        ((if items = [] then [[]] else items)[r.position]?).getD r.text
      else barred items ++ r.opener :: r.index ++ [r.closer]) := by
  have hchoose := choose_of_isDigit hr hdigits (barred items)
  rw [splitAt_barred hbars] at hchoose
  by_cases hlt : r.position < 2 ^ 63
  · rw [if_pos hlt] at hchoose ⊢
    cases hitem : (if items = [] then [[]] else items)[r.position]? with
    | none =>
      rw [hitem] at hchoose
      have hresult := result?_of_choose hr hsigil hlist hindex (hchoose ▸ .inl rfl)
      rwa [hchoose] at hresult
    | some item =>
      rw [hitem] at hchoose
      have hplain : ∀ c ∈ item, sg.isSigil c = false := by
        have hmem := List.mem_of_getElem? hitem
        split at hmem
        · rw [List.mem_singleton.mp hmem]
          exact fun c hc => nomatch hc
        · exact hitems item hmem
      have hresult := result?_of_choose hr hsigil hlist hindex (hchoose ▸ .inr hplain)
      rwa [hchoose] at hresult
  · rw [if_neg hlt] at hchoose ⊢
    have hresult := result?_of_choose hr hsigil hlist hindex (hchoose ▸ .inl rfl)
    rwa [hchoose] at hresult

/-- **A reference with an index in decimal digits becomes the item at that position, or stays as it
is when there is none, as far as the position fits a signed word of 64 bits.**  The one list for
which this needs more is the one without items, whose text is that of one empty item. -/
theorem result?_item_iff :
    result? sg r.text = some (items[r.position]?.getD r.text) ↔
      r.position < 2 ^ 63 ∧ (items = [] → r.position ≠ 0) := by
  rw [result?_of_isDigit hr hsigil hdigits hindex hlist hbars hitems, Option.some.injEq]
  by_cases hlt : r.position < 2 ^ 63
  · rw [if_pos hlt]
    by_cases hnil : items = []
    · subst hnil
      rw [if_pos rfl, List.getElem?_nil, Option.getD_none]
      cases hposition : r.position with
      | zero => simp [Indexed.text]
      | succ n => exact iff_of_true rfl ⟨hposition ▸ hlt, fun _ => Nat.succ_ne_zero n⟩
    · rw [if_neg hnil]
      exact iff_of_true rfl ⟨hlt, fun h => absurd h hnil⟩
  · have hopener : r.opener ≠ r.sigil := by
      rintro heq
      rw [← heq] at hsigil
      rcases hr.opener with h | h
      · exact absurd (h ▸ hsigil) (by decide)
      · exact absurd (h ▸ hsigil) (by decide)
    have hfree : r.sigil ∉ barred items := by
      intro hmem
      rcases mem_barred hmem with h | ⟨item, hitem, hc⟩
      · exact absurd (h ▸ hsigil) (by decide)
      · exact absurd (isSigil_of_lookup hlist) (by rw [hitems item hitem _ hc]; decide)
    rw [if_neg hlt, List.append_assoc, List.cons_append]
    exact iff_of_false (barred_append_ne hopener hfree r.position _) fun h => hlt h.1

end Position

/-- One value, a list of two items. -/
def pair : Sigils :=
  ⟨[('$', [fun name => if name = "l" then some (String.ofList (barred [['a'], ['b']])) else none])]⟩

/-- A reference to an item of it. -/
def Indexed.ofPair (digits : List Char) : Indexed :=
  ⟨'$', ['l'], '[', digits, ']'⟩

theorem lookup_pair (digits : List Char) :
    pair.lookup (Indexed.ofPair digits).sigil (Indexed.ofPair digits).name =
      some (barred [['a'], ['b']]) := by
  change some (String.ofList (barred [['a'], ['b']])).toList = _
  rw [String.toList_ofList]

theorem wellFormed_ofPair {digits : List Char} (hne : digits ≠ [])
    (h : ∀ c ∈ digits, c.isDigit = true) : (Indexed.ofPair digits).WellFormed where
  name_ne := List.cons_ne_nil _ _
  isNameChar := List.forall_mem_singleton.mpr (by decide)
  opener := .inl rfl
  index_ne := hne
  isIndexChar := fun c hc => by
    rw [isIndexChar, isNameChar, Char.isAlphanum, h c hc, Bool.or_true, Bool.true_or, Bool.true_or,
      Bool.true_or, Bool.true_or]
  closer := .inl rfl

/-- The items hold no sigil. -/
theorem isSigil_pair_of_mem : ∀ item ∈ [['a'], ['b']], ∀ c ∈ item, pair.isSigil c = false := by
  simp only [List.forall_mem_cons, List.not_mem_nil, false_implies, implies_true, and_true]
  exact ⟨rfl, rfl⟩

theorem isSigil_pair_of_isDigit {c : Char} (h : c.isDigit = true) : pair.isSigil c = false := by
  have hne : c ≠ '$' := by
    rintro rfl
    exact absurd h (by decide)
  simpa [pair, Sigils.isSigil] using hne.symm

/-- The second item, asked for with a leading zero. -/
theorem result?_pair_second : result? pair "$l[01]".toList = some ['b'] := by
  have hdigits : ∀ c ∈ ['0', '1'], c.isDigit = true := List.all_eq_true.mp rfl
  exact (result?_item_iff (wellFormed_ofPair (by decide) hdigits) rfl hdigits
    (fun c hc => isSigil_pair_of_isDigit (hdigits c hc)) (lookup_pair _) (by decide)
    isSigil_pair_of_mem).mpr (by decide)

/-- **A position beyond 64 bits does not leave the reference alone.** -/
theorem result?_pair_beyond :
    result? pair "$l[9223372036854775808]".toList = some "a|b[9223372036854775808]".toList ∧
      "a|b[9223372036854775808]" ≠ "$l[9223372036854775808]" := by
  have hdigits : ∀ c ∈ "9223372036854775808".toList, c.isDigit = true :=
    List.all_eq_true.mp (by decide)
  exact ⟨result?_of_isDigit (wellFormed_ofPair (by decide) hdigits) rfl hdigits
    (fun c hc => isSigil_pair_of_isDigit (hdigits c hc)) (lookup_pair _) (by decide)
    isSigil_pair_of_mem, by decide⟩

end Substitution

end StreamScript
