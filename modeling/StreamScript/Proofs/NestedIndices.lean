import Mathlib.Data.Set.Finite.List
import Mathlib.Logic.Relation
import Mathlib.Order.Preorder.Finite
import Mathlib.Order.WellFounded
import StreamScript.Proofs.Vars.Settling

/-!
# When putting variables into a text ends

Variables are put into the index of a reference before the reference is looked
up, and the index is gone over with as many passes as any other text.  So one
text can make another be gone over, and nothing bounds how deeply this nests.

`within` goes over a text with a bound on the depth, and what `result?` answers is
answered within some depth (`answersWithin_result?`).  The main result says when
that is: `exists_within_iff` shows that putting variables in ends unless
some index is met again while it is being gone over itself.

## Why a repetition is the only way to go on for ever

An index has no brackets, so it holds no reference with an index when it is
first looked at.  Whatever index it makes be gone over stands in the text of a
later pass, and there is a later pass only while the text is no longer than
sixteen kilobytes.  Hence the texts met in a nesting, the first two apart, are
of bounded length, and there are finitely many of those.
-/

namespace StreamScript

open Text

namespace Substitution

variable {sg : Sigils} {inner inner' : List Char → Option (List Char)} {cs idx r : List Char}

/-! ## A bound on the depth -/

/-- Puts variables into a text whose indices nest less than `depth` deep. -/
def within (sg : Sigils) : Nat → List Char → Option (List Char)
  | 0 => fun _ => none
  | depth + 1 => expand? sg (within sg depth)

theorem Extends.refl (inner : List Char → Option (List Char)) : Extends inner inner :=
  fun _ _ h => h

theorem Extends.trans {inner'' : List Char → Option (List Char)} (h : Extends inner inner')
    (h' : Extends inner' inner'') : Extends inner inner'' :=
  fun idx a ha => h' idx a (h idx a ha)

theorem within_extends_succ (sg : Sigils) (depth : Nat) :
    Extends (within sg depth) (within sg (depth + 1)) := by
  induction depth with
  | zero => intro idx a h; cases h
  | succ depth ih => exact ih.expand?

theorem within_extends {depth depth' : Nat} (h : depth ≤ depth') :
    Extends (within sg depth) (within sg depth') := by
  induction h with
  | refl => exact .refl _
  | step _ ih => exact ih.trans (within_extends_succ sg _)

theorem within_extends_result? (sg : Sigils) (depth : Nat) :
    Extends (within sg depth) (result? sg) := by
  induction depth with
  | zero => intro idx a h; cases h
  | succ depth ih =>
    intro idx a h
    rw [result?]
    exact ih.expand? idx a h

/-! ## Some depth is enough -/

/-- Whatever `inner` answers is also answered within some depth. -/
def AnswersWithin (sg : Sigils) (inner : List Char → Option (List Char)) : Prop :=
  ∀ idx a, inner idx = some a → ∃ depth, within sg depth idx = some a

theorem AnswersWithin.resolve? (h : AnswersWithin sg inner) {piece : Piece} {seg : Segment}
    (hp : piece.resolve? inner = some seg) :
    ∃ depth, piece.resolve? (within sg depth) = some seg := by
  cases piece with
  | stretch seg' => exact ⟨0, hp⟩
  | item r list =>
    obtain ⟨a, ha, rfl⟩ := Option.map_eq_some_iff.mp hp
    obtain ⟨depth, hdepth⟩ := h _ _ ha
    exact ⟨depth, Option.map_eq_some_iff.mpr ⟨a, hdepth, rfl⟩⟩

/-- Finitely many indices, each answered within some depth, are answered within one depth. -/
theorem AnswersWithin.mapM (h : AnswersWithin sg inner) {pieces : List Piece}
    {found : List Segment} (hp : pieces.mapM (Piece.resolve? inner) = some found) :
    ∃ depth, pieces.mapM (Piece.resolve? (within sg depth)) = some found := by
  induction pieces generalizing found with
  | nil => exact ⟨0, hp⟩
  | cons piece pieces ih =>
    rw [List.mapM_cons] at hp
    obtain ⟨seg, hseg, hp⟩ := Option.bind_eq_some_iff.mp hp
    obtain ⟨segs, hsegs, hp⟩ := Option.bind_eq_some_iff.mp hp
    obtain ⟨d, hd⟩ := h.resolve? hseg
    obtain ⟨d', hd'⟩ := ih hsegs
    refine ⟨max d d', ?_⟩
    rw [List.mapM_cons]
    have hhead := (within_extends (le_max_left d d')).resolve? hd
    have htail := (within_extends (le_max_right d d')).mapM hd'
    exact Option.bind_eq_some_iff.mpr ⟨seg, hhead, Option.bind_eq_some_iff.mpr ⟨segs, htail, hp⟩⟩

theorem AnswersWithin.pass? (h : AnswersWithin sg inner) {segs after : List Segment}
    (hp : pass? sg inner segs = some after) :
    ∃ depth, pass? sg (within sg depth) segs = some after := by
  obtain ⟨found, hfound, rfl⟩ := Option.map_eq_some_iff.mp hp
  obtain ⟨depth, hdepth⟩ := h.mapM hfound
  exact ⟨depth, Option.map_eq_some_iff.mpr ⟨found, hdepth, rfl⟩⟩

theorem AnswersWithin.passes (h : AnswersWithin sg inner) {n : Nat} {segs : List Segment}
    (hp : passes sg inner n segs = some r) :
    ∃ depth, passes sg (within sg depth) n segs = some r := by
  induction n generalizing segs with
  | zero => exact ⟨0, hp⟩
  | succ n ih =>
    rw [Substitution.passes] at hp
    cases hpass : Substitution.pass? sg inner segs with
    | none => rw [hpass] at hp; cases hp
    | some after =>
      rw [hpass] at hp
      dsimp only at hp
      obtain ⟨d, hd⟩ := h.pass? hpass
      split at hp
      · next hfinal =>
        refine ⟨d, ?_⟩
        rw [Substitution.passes, hd]
        exact (if_pos hfinal).trans hp
      · next hfinal =>
        obtain ⟨d', hd'⟩ := ih hp
        refine ⟨max d d', ?_⟩
        rw [Substitution.passes, (within_extends (le_max_left d d')).pass? hd]
        exact (if_neg hfinal).trans ((within_extends (le_max_right d d')).passes hd')

theorem AnswersWithin.expand? (h : AnswersWithin sg inner) :
    AnswersWithin sg (expand? sg inner) := by
  intro cs r hr
  rw [Substitution.expand?] at hr
  split at hr
  · next hsigil =>
    obtain ⟨depth, hdepth⟩ := h.passes hr
    exact ⟨depth + 1, (if_pos hsigil).trans hdepth⟩
  · next hsigil => exact ⟨1, (if_neg hsigil).trans hr⟩

/-- What putting variables in gives, it gives within some depth.  The induction is that of the
recursion itself: what holds of every answer it builds holds of all its answers. -/
theorem answersWithin_result? (sg : Sigils) : AnswersWithin sg (result? sg) :=
  result?.partial_correctness sg _ fun _ h => AnswersWithin.expand? h

/-! ## Which index makes which be gone over -/

/-- The index that a piece needs, when it is a reference with one. -/
def Piece.index? : Piece → Option (List Char)
  | .stretch _ => none
  | .item r _ => some r.index

/-- The indices that a pass goes over. -/
def asked (sg : Sigils) (segs : List Segment) : List (List Char) :=
  (segs.flatMap (Segment.pieces sg)).filterMap Piece.index?

/-- An index is gone over in one of `n` passes.  A pass is reached only when all those before it
have ended and have left something to do. -/
inductive Asks (sg : Sigils) (inner : List Char → Option (List Char)) :
    Nat → List Segment → List Char → Prop where
  | now {n : Nat} {segs : List Segment} {idx : List Char} :
      idx ∈ asked sg segs → Asks sg inner (n + 1) segs idx
  | later {n : Nat} {segs after : List Segment} {idx : List Char} :
      pass? sg inner segs = some after → isFinal (join segs) (join after) = false →
      Asks sg inner n after idx → Asks sg inner (n + 1) segs idx

/-- Putting variables into `cs` starts putting them into the index `idx`. -/
def StartsOn (sg : Sigils) (cs idx : List Char) : Prop :=
  cs.any sg.isSigil = true ∧ Asks sg (result? sg) maxPasses [⟨cs, false⟩] idx

theorem exists_resolve?_iff {piece : Piece} :
    (∃ seg, piece.resolve? inner = some seg) ↔
      ∀ idx, piece.index? = some idx → ∃ a, inner idx = some a := by
  cases piece with
  | stretch seg => simp [Piece.resolve?, Piece.index?]
  | item r list => simp [Piece.resolve?, Piece.index?]

theorem exists_mapM_iff {α β : Type} {f : α → Option β} {xs : List α} :
    (∃ ys, xs.mapM f = some ys) ↔ ∀ x ∈ xs, ∃ y, f x = some y := by
  induction xs with
  | nil => simp
  | cons x xs ih =>
    rw [List.forall_mem_cons, ← ih]
    simp only [List.mapM_cons, Option.bind_eq_bind, Option.bind_eq_some_iff, Option.pure_def,
      Option.some.injEq]
    constructor
    · rintro ⟨_, y, hy, ys, hys, rfl⟩
      exact ⟨⟨y, hy⟩, ys, hys⟩
    · rintro ⟨⟨y, hy⟩, ys, hys⟩
      exact ⟨y :: ys, y, hy, ys, hys, rfl⟩

/-- A pass ends exactly when going over each of its indices does. -/
theorem exists_pass?_iff {segs : List Segment} :
    (∃ after, pass? sg inner segs = some after) ↔
      ∀ idx ∈ asked sg segs, ∃ a, inner idx = some a := by
  have hmap : (∃ after, pass? sg inner segs = some after) ↔
      ∃ found, (segs.flatMap (Segment.pieces sg)).mapM (Piece.resolve? inner) = some found := by
    simp [pass?]
  rw [hmap, exists_mapM_iff]
  simp only [exists_resolve?_iff, asked, List.mem_filterMap]
  constructor
  · rintro h idx ⟨piece, hmem, hidx⟩
    exact h piece hmem idx hidx
  · intro h piece hmem idx hidx
    exact h idx ⟨piece, hmem, hidx⟩

/-- The passes end when going over every index that they come to ends. -/
theorem exists_passes {n : Nat} {segs : List Segment}
    (h : ∀ idx, Asks sg inner n segs idx → ∃ a, inner idx = some a) :
    ∃ r, passes sg inner n segs = some r := by
  induction n generalizing segs with
  | zero => exact ⟨_, rfl⟩
  | succ n ih =>
    obtain ⟨after, hafter⟩ := exists_pass?_iff.mpr fun idx hidx => h idx (.now hidx)
    rw [passes, hafter]
    dsimp only
    split
    · exact ⟨_, rfl⟩
    · next hfinal =>
      refine ih fun idx hidx => h idx (.later hafter ?_ hidx)
      exact Bool.eq_false_iff.mpr hfinal

/-- Passes that end have ended going over every index that they came to. -/
theorem Asks.exists_of_passes {n : Nat} {segs : List Segment}
    (ha : Asks sg inner' n segs idx) (hext : Extends inner inner')
    (hp : passes sg inner n segs = some r) : ∃ a, inner idx = some a := by
  induction ha with
  | @now n segs idx hidx =>
    have hpass : ∃ after, pass? sg inner segs = some after := by
      cases hq : pass? sg inner segs with
      | none => rw [passes, hq] at hp; cases hp
      | some after => exact ⟨after, rfl⟩
    exact exists_pass?_iff.mp hpass idx hidx
  | @later n segs after idx hafter hfinal _ ih =>
    rw [passes] at hp
    cases hq : pass? sg inner segs with
    | none => rw [hq] at hp; cases hp
    | some after' =>
      have heq : after' = after := Option.some.inj ((hext.pass? hq).symm.trans hafter)
      subst heq
      rw [hq] at hp
      dsimp only at hp
      rw [hfinal] at hp
      exact ih hp

/-! ## Ending is being well-founded -/

/-- A text gone over within some depth starts no endless nesting. -/
theorem acc_of_within {depth : Nat} (h : within sg depth cs = some r) :
    Acc (Function.swap (StartsOn sg)) cs := by
  induction depth generalizing cs r with
  | zero => cases h
  | succ depth ih =>
    refine Acc.intro cs fun idx hidx => ?_
    obtain ⟨hsigil, hasks⟩ := hidx
    rw [within, expand?, if_pos hsigil] at h
    obtain ⟨a, ha⟩ := hasks.exists_of_passes (within_extends_result? sg depth) h
    exact ih ha

theorem exists_result?_of_acc (h : Acc (Function.swap (StartsOn sg)) cs) :
    ∃ r, result? sg cs = some r := by
  induction h with
  | intro cs _ ih =>
    rw [result?, expand?]
    split
    · next hsigil => exact exists_passes fun idx hidx => ih idx ⟨hsigil, hidx⟩
    · exact ⟨cs, rfl⟩

/-- Putting variables into a text ends exactly when it starts no endless nesting. -/
theorem exists_result?_iff_acc :
    (∃ r, result? sg cs = some r) ↔ Acc (Function.swap (StartsOn sg)) cs := by
  constructor
  · rintro ⟨r, hr⟩
    obtain ⟨depth, hdepth⟩ := answersWithin_result? sg _ _ hr
    exact acc_of_within hdepth
  · exact exists_result?_of_acc

/-! ## The texts that a nesting goes over -/

/-- The text of a reference that has been read holds its index. -/
theorem index_of_readIndexed? {sigil : Char} {rest : List Char} {r : Indexed}
    (h : readIndexed? sigil cs = some (r, rest)) :
    r.index.length ≤ cs.length ∧ ∀ c ∈ r.index, isIndexChar c = true := by
  obtain ⟨-, hr, htext⟩ := readIndexed?_eq_some_iff.mp h
  rw [Indexed.text_append] at htext
  obtain ⟨-, rfl⟩ := List.cons.inj htext
  have hsublist : r.index.Sublist (r.name ++ r.opener :: (r.index ++ r.closer :: rest)) :=
    ((List.sublist_append_left ..).cons _).trans (List.sublist_append_right ..)
  exact ⟨hsublist.length_le, hr.isIndexChar⟩

/-- An index of a text is no longer than the text, and has no brackets. -/
theorem index_of_mem_piecesFrom {plain : List Char} {piece : Piece}
    (hmem : piece ∈ piecesFrom sg plain cs) (hidx : piece.index? = some idx) :
    idx.length ≤ cs.length ∧ ∀ c ∈ idx, isIndexChar c = true := by
  fun_induction piecesFrom sg plain cs with
  | case1 plain =>
    obtain rfl := List.mem_singleton.mp hmem
    cases hidx
  | case2 plain c rest _ _ ih =>
    obtain ⟨hlen, hall⟩ := ih hmem
    exact ⟨by rw [List.length_cons]; omega, hall⟩
  | case3 plain c rest _ r more hread _ ih =>
    obtain ⟨hlen, hall⟩ := ih hmem
    have := length_readIndexed?_lt hread
    exact ⟨by rw [List.length_cons]; omega, hall⟩
  | case4 plain c rest _ r more hread list _ ih =>
    rcases List.mem_cons.mp hmem with rfl | hmem
    · cases hidx
    rcases List.mem_cons.mp hmem with rfl | hmem
    · obtain rfl := Option.some.inj hidx
      obtain ⟨hlen, hall⟩ := index_of_readIndexed? hread
      exact ⟨by rw [List.length_cons]; omega, hall⟩
    · obtain ⟨hlen, hall⟩ := ih hmem
      have := length_readIndexed?_lt hread
      exact ⟨by rw [List.length_cons]; omega, hall⟩
  | case5 plain c rest _ ih =>
    obtain ⟨hlen, hall⟩ := ih hmem
    exact ⟨by rw [List.length_cons]; omega, hall⟩

theorem index_of_mem_asked {segs : List Segment} (h : idx ∈ asked sg segs) :
    idx.length ≤ (join segs).length ∧ ∀ c ∈ idx, isIndexChar c = true := by
  obtain ⟨piece, hpiece, hidx⟩ := List.mem_filterMap.mp h
  obtain ⟨seg, hseg, hmem⟩ := List.mem_flatMap.mp hpiece
  have hle : seg.text.length ≤ (join segs).length :=
    (List.sublist_flatten_of_mem (List.mem_map.mpr ⟨seg, hseg, rfl⟩)).length_le
  rw [Segment.pieces] at hmem
  split at hmem
  · obtain rfl := List.mem_singleton.mp hmem
    cases hidx
  · obtain ⟨hlen, hall⟩ := index_of_mem_piecesFrom hmem hidx
    exact ⟨hlen.trans hle, hall⟩

/-- A text without brackets holds no reference with an index. -/
theorem unlisted_of_isIndexChar (h : ∀ c ∈ cs, isIndexChar c = true) : Unlisted sg cs := by
  induction cs with
  | nil => trivial
  | cons c cs ih =>
    obtain ⟨-, hcs⟩ := List.forall_mem_cons.mp h
    refine ⟨fun _ r more hread => ?_, ih hcs⟩
    obtain ⟨-, hr, htext⟩ := readIndexed?_eq_some_iff.mp hread
    have hopener : isIndexChar r.opener = true := by
      refine h r.opener (htext ▸ ?_)
      rw [Indexed.text_append]
      simp
    rcases hr.opener with heq | heq
    · exact absurd hopener (by rw [heq]; decide)
    · exact absurd hopener (by rw [heq]; decide)

/-- The first pass over an index goes over no other. -/
theorem asked_of_index (h : ∀ c ∈ cs, isIndexChar c = true) : asked sg [⟨cs, false⟩] = [] := by
  rw [asked, List.flatMap_singleton, Segment.pieces, if_neg Bool.false_ne_true,
    piecesFrom_of_unlisted (unlisted_of_isIndexChar h)]
  rfl

theorem length_le_byteLength (cs : List Char) : cs.length ≤ Cursor.byteLength cs := by
  induction cs with
  | nil => exact Nat.zero_le _
  | cons c cs ih =>
    have hc : 0 < c.utf8Size := Char.utf8Size_pos c
    rw [Cursor.byteLength, List.foldr_cons, List.length_cons]
    rw [Cursor.byteLength] at ih
    omega

/-- Only the first pass can go over an index that is longer than what ends the passes. -/
theorem Asks.mem_or_length_le {n : Nat} {segs : List Segment} (h : Asks sg inner n segs idx) :
    (idx ∈ asked sg segs ∨ idx.length ≤ maxLength) ∧ ∀ c ∈ idx, isIndexChar c = true := by
  induction h with
  | now hidx => exact ⟨.inl hidx, (index_of_mem_asked hidx).2⟩
  | @later n segs after idx _ hfinal _ ih =>
    obtain ⟨hidx, hall⟩ := ih
    refine ⟨.inr ?_, hall⟩
    rcases hidx with hmem | hle
    · have hlong : Cursor.byteLength (join after) ≤ maxLength := by
        simpa [isFinal] using And.right (Bool.or_eq_false_iff.mp hfinal)
      exact ((index_of_mem_asked hmem).1.trans (length_le_byteLength _)).trans hlong
    · exact hle

/-- An index has no brackets, whatever text it was found in. -/
theorem StartsOn.isIndexChar (h : StartsOn sg cs idx) : ∀ c ∈ idx, isIndexChar c = true :=
  h.2.mem_or_length_le.2

/-- What an index starts is short. -/
theorem StartsOn.length_le (h : StartsOn sg cs idx)
    (hcs : ∀ c ∈ cs, Substitution.isIndexChar c = true) : idx.length ≤ maxLength := by
  rcases h.2.mem_or_length_le.1 with hmem | hle
  · rw [asked_of_index hcs] at hmem
    cases hmem
  · exact hle

/-! ## An endless nesting repeats itself -/

theorem finite_char : Finite Char :=
  Finite.of_injective (fun c : Char => c.val.toFin) fun _ _ h => Char.ext (UInt32.toFin_inj.mp h)

/-- The texts of a nesting from the third on are of bounded length, so one of them returns. -/
theorem exists_repeated {f : Nat → List Char} (h : ∀ n, StartsOn sg (f n) (f (n + 1))) :
    ∃ n, Relation.TransGen (StartsOn sg) (f n) (f n) := by
  have := finite_char
  have hmem (n : Nat) : f (n + 2) ∈ {cs : List Char | cs.length ≤ maxLength} :=
    (h (n + 1)).length_le (h n).isIndexChar
  obtain ⟨m, n, hlt, heq⟩ :=
    Set.Finite.exists_lt_map_eq_of_forall_mem hmem (List.finite_length_le Char maxLength)
  refine ⟨m + 2, ?_⟩
  have hchain : Relation.TransGen (StartsOn sg) (f (m + 2)) (f (n + 2)) :=
    Nat.rel_of_forall_rel_succ_of_lt (Relation.TransGen (StartsOn sg)) (f := fun k => f (k + 2))
      (fun k => .single (h (k + 2))) hlt
  exact heq ▸ hchain

theorem not_transGen_self_of_acc (h : Acc (Function.swap (StartsOn sg)) cs) :
    ¬ Relation.TransGen (StartsOn sg) cs cs := by
  induction h with
  | intro cs _ ih =>
    intro hcycle
    obtain ⟨idx, hstep, hback⟩ := Relation.TransGen.head'_iff.mp hcycle
    exact ih idx hstep (.tail' hback hstep)

/-- An endless nesting is one that comes back to an index. -/
theorem acc_startsOn_iff : Acc (Function.swap (StartsOn sg)) cs ↔
    ¬ ∃ idx, Relation.ReflTransGen (StartsOn sg) cs idx ∧
      Relation.TransGen (StartsOn sg) idx idx := by
  constructor
  · rintro h ⟨idx, hreach, hcycle⟩
    have hidx : Acc (Function.swap (StartsOn sg)) idx := by
      clear hcycle
      induction hreach with
      | refl => exact h
      | tail _ hstep ih => exact ih.inv hstep
    exact not_transGen_self_of_acc hidx hcycle
  · intro h
    by_contra hacc
    obtain ⟨f, rfl, hf⟩ := not_acc_iff_exists_descending_chain.mp hacc
    obtain ⟨n, hn⟩ := exists_repeated hf
    refine h ⟨f n, ?_, hn⟩
    clear hn
    induction n with
    | zero => exact .refl
    | succ n ih => exact ih.tail (hf n)

/-- **Putting variables into a text ends, within some depth of indices, unless it comes to an index
that is met again while it is being gone over itself.**  No other list of values, however often it
mentions itself, makes it go on for ever. -/
theorem exists_within_iff (sg : Sigils) (cs : List Char) :
    (∃ depth r, within sg depth cs = some r ∧ result? sg cs = some r) ↔
      ¬ ∃ idx, Relation.ReflTransGen (StartsOn sg) cs idx ∧
        Relation.TransGen (StartsOn sg) idx idx := by
  rw [← acc_startsOn_iff, ← exists_result?_iff_acc]
  constructor
  · rintro ⟨_, r, -, hr⟩
    exact ⟨r, hr⟩
  · rintro ⟨r, hr⟩
    obtain ⟨depth, hdepth⟩ := answersWithin_result? sg _ _ hr
    exact ⟨depth, r, hdepth, hr⟩

/-- An index whose value is a reference with this very index starts going over itself. -/
theorem startsOn_self {value : List Char} (hindex : ∀ c ∈ cs, isIndexChar c = true)
    (hsigil : cs.any sg.isSigil = true) (hplain : plainText sg cs = value)
    (hfinal : isFinal (join [⟨cs, false⟩]) (join [⟨value, false⟩]) = false)
    (hasked : cs ∈ asked sg [⟨value, false⟩]) : StartsOn sg cs cs := by
  refine ⟨hsigil, .later ?_ hfinal (.now hasked)⟩
  rw [pass?_of_unlisted (unlisted_of_isIndexChar hindex), hplain]

/-- Putting variables into such an index never ends. -/
theorem result?_eq_none_of_startsOn_self (h : StartsOn sg cs cs) : result? sg cs = none := by
  cases hr : result? sg cs with
  | none => rfl
  | some r =>
    exact absurd (.single h) (not_transGen_self_of_acc (exists_result?_iff_acc.mp ⟨r, hr⟩))

/-- Two values: a list, and an index that asks for an item of the list under the index itself. -/
def circular : Sigils :=
  ⟨[('$', [fun name =>
    if name = "l" then some "a|b" else if name = "i" then some "$l[$i]" else none])]⟩

theorem startsOn_circular : StartsOn circular ['$', 'i'] ['$', 'i'] :=
  @startsOn_self _ _ ['$', 'l', '[', '$', 'i', ']'] (List.all_eq_true.mp rfl) (by decide +kernel)
    (by decide +kernel) (by decide +kernel) (by decide +kernel)

/-- **An index whose value asks for itself is gone over for ever.** -/
theorem not_exists_within_circular : ¬ ∃ depth r, within circular depth ['$', 'i'] = some r := by
  rintro ⟨depth, r, h⟩
  exact not_transGen_self_of_acc (acc_of_within h) (.single startsOn_circular)

end Substitution

end StreamScript
