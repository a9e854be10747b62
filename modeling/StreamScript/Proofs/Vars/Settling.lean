import Mathlib.Data.List.TakeWhile
import StreamScript.Proofs.LeadingText

/-!
# Texts that one pass settles

Putting variables into a text goes over it until nothing changes, with a look for
references with an index before each pass.  Most texts need none of this: where no
reference with an index is known, a pass only expands the plain references, and when
that leaves nothing to expand, the next pass ends the matter (`result?_of_unlisted`).

What is to be shown of such a text is then about one function on lists of characters,
`plainText`, without stretches and without the number of passes.  The one condition
that speaks of the text after the pass asks whether the values that have been put in
make a reference with what stands around them.
-/

namespace StreamScript

namespace Substitution

variable {sg : Sigils} {inner : List Char → Option (List Char)} {sigil : Char}
  {name rest front cs plain : List Char}

/-! ## References with an index, as they are written -/

/-- A reference with an index whose parts consist of the characters they may consist of. -/
structure Indexed.WellFormed (r : Indexed) : Prop where
  name_ne : r.name ≠ []
  isNameChar : ∀ c ∈ r.name, isNameChar c = true
  opener : r.opener = '[' ∨ r.opener = '('
  index_ne : r.index ≠ []
  isIndexChar : ∀ c ∈ r.index, isIndexChar c = true
  closer : r.closer = ']' ∨ r.closer = ')'

theorem isNameChar_of_bracket {c : Char} (h : c = '[' ∨ c = '(') : isNameChar c = false := by
  rcases h with rfl | rfl <;> decide

theorem isIndexChar_of_bracket {c : Char} (h : c = ']' ∨ c = ')') : isIndexChar c = false := by
  rcases h with rfl | rfl <;> decide

theorem Indexed.text_append (r : Indexed) (rest : List Char) :
    r.text ++ rest = r.sigil :: (r.name ++ r.opener :: (r.index ++ r.closer :: rest)) := by
  simp [Indexed.text]

/-- A run of characters of a kind ends where a character of another kind stands. -/
theorem takeWhile_run {p : Char → Bool} {run : List Char} (hrun : ∀ c ∈ run, p c = true)
    (hrest : ∀ c, rest.head? = some c → p c = false) :
    (run ++ rest).takeWhile p = run ∧ (run ++ rest).dropWhile p = rest := by
  rw [List.takeWhile_append_of_pos hrun, List.dropWhile_append_of_pos hrun]
  cases rest with
  | nil => exact ⟨List.append_nil run, rfl⟩
  | cons c rest =>
    rw [List.takeWhile_cons, List.dropWhile_cons, hrest c rfl]
    exact ⟨List.append_nil run, rfl⟩

/-- A reference is read from a text exactly when the text starts with it. -/
theorem readIndexed?_eq_some_iff {r : Indexed} :
    readIndexed? sigil cs = some (r, rest) ↔
      r.sigil = sigil ∧ r.WellFormed ∧ sigil :: cs = r.text ++ rest := by
  constructor
  · intro h
    unfold readIndexed? at h
    split at h
    · cases h
    · next opener inner hname =>
      split at h
      · cases h
      · next closer more hindex =>
        dsimp only at h
        split at h
        · next hparts =>
          obtain ⟨rfl, rfl⟩ := Prod.mk.inj (Option.some.inj h)
          obtain ⟨hne, hopener, hine, hcloser⟩ := hparts
          have hcs := List.takeWhile_append_dropWhile (p := isNameChar) (l := cs)
          have hinner := List.takeWhile_append_dropWhile (p := isIndexChar) (l := inner)
          rw [hname] at hcs
          rw [hindex] at hinner
          refine ⟨rfl, ⟨hne, fun c => List.mem_takeWhile_imp, hopener, hine,
            fun c => List.mem_takeWhile_imp, hcloser⟩, ?_⟩
          rw [Indexed.text_append]
          dsimp only
          rw [hinner, hcs]
        · cases h
  · rintro ⟨rfl, hr, heq⟩
    rw [Indexed.text_append] at heq
    obtain ⟨-, rfl⟩ := List.cons.inj heq
    have hopener : ∀ c, (r.opener :: (r.index ++ r.closer :: rest)).head? = some c →
        isNameChar c = false := fun c hc => Option.some.inj hc ▸ isNameChar_of_bracket hr.opener
    have hcloser : ∀ c, (r.closer :: rest).head? = some c → isIndexChar c = false := fun c hc =>
      Option.some.inj hc ▸ isIndexChar_of_bracket hr.closer
    obtain ⟨htake, hdrop⟩ := takeWhile_run hr.isNameChar hopener
    obtain ⟨htake', hdrop'⟩ := takeWhile_run hr.isIndexChar hcloser
    rw [readIndexed?, hdrop, htake]
    dsimp only
    rw [hdrop', htake']
    exact if_pos ⟨hr.name_ne, hr.opener, hr.index_ne, hr.closer⟩

/-- A name behind which no bracket opens has no index. -/
theorem readIndexed?_of_unopened (hname : ∀ c ∈ name, isNameChar c = true)
    (hrest : ∀ c, rest.head? = some c → isNameChar c = false ∧ c ≠ '[' ∧ c ≠ '(') :
    readIndexed? sigil (name ++ rest) = none := by
  unfold readIndexed?
  rw [(takeWhile_run hname fun c hc => (hrest c hc).1).2]
  cases rest with
  | nil => rfl
  | cons c rest =>
    dsimp only
    split
    · rfl
    · exact if_neg fun h => h.2.1.elim (hrest c rfl).2.1 (hrest c rfl).2.2

/-! ## Texts without a known reference that has an index -/

/-- Nowhere in a text does a reference with an index start whose name is known. -/
def Unlisted (sg : Sigils) : List Char → Prop
  | [] => True
  | c :: rest =>
      (isIndexSigil c = true → ∀ r more, readIndexed? c rest = some (r, more) →
        sg.lookup c r.name = none) ∧ Unlisted sg rest

theorem Unlisted.of_append (h : Unlisted sg (front ++ rest)) : Unlisted sg rest := by
  induction front with
  | nil => exact h
  | cons c front ih => exact ih h.2

theorem unlisted_append (hfront : ∀ c ∈ front, isIndexSigil c = false) (hrest : Unlisted sg rest) :
    Unlisted sg (front ++ rest) := by
  induction front with
  | nil => exact hrest
  | cons c front ih =>
    obtain ⟨hc, hfront⟩ := List.forall_mem_cons.mp hfront
    exact ⟨fun hsigil => absurd hsigil (by rw [hc]; exact Bool.false_ne_true), ih hfront⟩

theorem lookup_entries_eq_none_iff : sg.entries.lookup sigil = none ↔ sg.isSigil sigil = false := by
  rw [List.lookup_eq_none_iff, Sigils.isSigil, List.any_eq_false]
  simp only [bne_iff_ne, beq_iff_eq, ne_comm]

theorem lookup_eq_none_of_isSigil (h : sg.isSigil sigil = false) (name : List Char) :
    sg.lookup sigil name = none := by
  rw [Sigils.lookup, lookup_entries_eq_none_iff.mpr h]

theorem isSigil_of_lookup {value : List Char} (h : sg.lookup sigil name = some value) :
    sg.isSigil sigil = true := by
  rw [← Bool.not_eq_false]
  intro hnone
  rw [lookup_eq_none_of_isSigil hnone] at h
  cases h

theorem unlisted_of_isSigil (h : ∀ c ∈ cs, sg.isSigil c = false) : Unlisted sg cs := by
  induction cs with
  | nil => trivial
  | cons c cs ih =>
    obtain ⟨hc, hcs⟩ := List.forall_mem_cons.mp h
    exact ⟨fun _ r _ _ => lookup_eq_none_of_isSigil hc r.name, ih hcs⟩

/-- Such a text is one piece. -/
theorem piecesFrom_of_unlisted (h : Unlisted sg cs) :
    piecesFrom sg plain cs = [.stretch ⟨plain.reverse ++ cs, false⟩] := by
  fun_induction piecesFrom sg plain cs with
  | case1 plain => rw [List.append_nil]
  | case2 plain c rest _ _ ih =>
    rw [ih h.2, List.reverse_cons, List.append_assoc]
    rfl
  | case3 plain c rest _ r more hread _ ih =>
    obtain ⟨-, -, htext⟩ := readIndexed?_eq_some_iff.mp hread
    rw [htext] at h ⊢
    rw [ih h.of_append, List.reverse_append, List.reverse_reverse, List.append_assoc]
  | case4 plain c rest hc r more hread list hlist =>
    rw [h.1 hc r more hread] at hlist
    cases hlist
  | case5 plain c rest _ ih =>
    rw [ih h.2, List.reverse_cons, List.append_assoc]
    rfl

/-! ## One pass -/

/-- A text in which the plain references under every sigil have been expanded, one sigil after
another. -/
def plainText (sg : Sigils) (cs : List Char) : List Char :=
  sg.entries.foldl (fun cs e => plainPass sg e.1 cs) cs

theorem foldl_plainPass_eq_self {entries : List (Char × List Lookup)}
    (h : ∀ e ∈ entries, plainPass sg e.1 cs = cs) :
    entries.foldl (fun cs e => plainPass sg e.1 cs) cs = cs := by
  induction entries with
  | nil => rfl
  | cons e entries ih =>
    obtain ⟨he, hentries⟩ := List.forall_mem_cons.mp h
    rw [List.foldl_cons, he]
    exact ih hentries

theorem plainText_eq_self (h : ∀ e ∈ sg.entries, plainPass sg e.1 cs = cs) :
    plainText sg cs = cs :=
  foldl_plainPass_eq_self h

theorem plainPass_of_ne (h : ∀ c ∈ cs, c ≠ sigil) : plainPass sg sigil cs = cs := by
  have happend : plainPass sg sigil (cs ++ []) = cs ++ plainPass sg sigil [] :=
    plainPass_append h []
  rwa [plainPass, List.append_nil] at happend

theorem ne_of_isSigil {e : Char × List Lookup} (he : e ∈ sg.entries)
    (h : ∀ c ∈ cs, sg.isSigil c = false) : ∀ c ∈ cs, c ≠ e.1 := by
  rintro c hc rfl
  exact List.any_eq_false.mp (h e.1 hc) e he (beq_self_eq_true e.1)

theorem plainText_of_isSigil (h : ∀ c ∈ cs, sg.isSigil c = false) : plainText sg cs = cs :=
  plainText_eq_self fun _ he => plainPass_of_ne (ne_of_isSigil he h)

theorem pass?_of_unlisted (h : Unlisted sg cs) :
    pass? sg inner [⟨cs, false⟩] = some [⟨plainText sg cs, false⟩] := by
  rw [pass?, List.flatMap_singleton, Segment.pieces, if_neg Bool.false_ne_true,
    piecesFrom_of_unlisted h]
  rfl

/-! ## All passes -/

/-- Stretches that a pass leaves as they are stay so. -/
theorem passes_of_fixed {segs : List Segment} (hfixed : pass? sg inner segs = some segs) (n : Nat) :
    passes sg inner n segs = some (join segs) := by
  cases n with
  | zero => rfl
  | succ n =>
    rw [passes, hfixed]
    dsimp only
    rw [isFinal, beq_self_eq_true, Bool.true_or, if_pos rfl]

/-- Whether or not a pass that leaves such stretches is the last one, they stay so. -/
theorem passes_of_pass? {segs after : List Segment} (hpass : pass? sg inner segs = some after)
    (hfixed : pass? sg inner after = some after) (n : Nat) :
    passes sg inner (n + 1) segs = some (join after) := by
  rw [passes, hpass]
  dsimp only
  split
  · rfl
  · exact passes_of_fixed hfixed n

theorem join_open (cs : List Char) : join [⟨cs, false⟩] = cs :=
  List.append_nil cs

/-- **A text without a known reference that has an index becomes what one pass makes of it, when
that has none either and nothing is left in it to expand.** -/
theorem result?_of_unlisted (h : Unlisted sg cs) (hafter : Unlisted sg (plainText sg cs))
    (hplain : plainText sg (plainText sg cs) = plainText sg cs) :
    result? sg cs = some (plainText sg cs) := by
  rw [result?, expand?]
  split
  · have hfixed : pass? sg (fun idx => result? sg idx) [⟨plainText sg cs, false⟩] =
        some [⟨plainText sg cs, false⟩] := by
      rw [pass?_of_unlisted hafter, hplain]
    rw [maxPasses, passes_of_pass? (pass?_of_unlisted h) hfixed, join_open]
  · next hsigil =>
    rw [Bool.not_eq_true, List.any_eq_false] at hsigil
    rw [plainText_of_isSigil fun c hc => Bool.not_eq_true _ ▸ hsigil c hc]

theorem result?_of_isSigil (h : ∀ c ∈ cs, sg.isSigil c = false) : result? sg cs = some cs := by
  have hplain := plainText_of_isSigil h
  have hunlisted := unlisted_of_isSigil h
  have hresult := result?_of_unlisted hunlisted (hplain.symm ▸ hunlisted) (congrArg _ hplain)
  rwa [hplain] at hresult

end Substitution

end StreamScript
