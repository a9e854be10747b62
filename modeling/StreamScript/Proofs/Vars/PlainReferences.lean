import Mathlib.Data.List.Basic
import StreamScript.Proofs.Vars.Settling

/-!
# Plain references are replaced all at once

References are put into a text one sigil after another, and what one sigil has made of
the text is gone over again for the next, and in further passes.  As long as the values
hold no sigils, and each reference is cut off from what follows it, none of this can be
seen: the result is the text in which every reference stands replaced by what it means,
whatever the number of references, of scopes and of sigils (`result?_written`).

The text between two sigils is the text in which the references under some of the
sigils have been replaced and the others have not (`textIn`).  Expanding the references
under one sigil adds this sigil to those that are done (`plainPass_textIn`), and a
reference that has been done without being known is done again with the same result.

What a reference means is said apart from the code (`Means`): the longest front part of
its name that has a value, in the first scope that has one.
-/

namespace StreamScript

/-! ## Scopes in the order of their registration -/

/-- Sigils to which scopes have been added in the given order. -/
def Sigils.ofScopes (scopes : List (Char × Lookup)) : Sigils :=
  scopes.foldl (fun sg s => sg.register s.1 s.2) {}

namespace Sigils

variable {sg : Sigils} {scopes : List (Char × Lookup)} {sigil : Char} {name : List Char}

theorem isSigil_register (sg : Sigils) (sigil : Char) (look : Lookup) (c : Char) :
    (sg.register sigil look).isSigil c = (sg.isSigil c || sigil == c) := by
  rw [register]
  split
  · next hsigil =>
    have hkeys : ∀ e : Char × List Lookup,
        (if e.1 == sigil then (e.1, e.2 ++ [look]) else e).1 = e.1 := fun e => by split <;> rfl
    rw [isSigil, List.any_map]
    simp only [Function.comp_def, hkeys]
    change sg.isSigil c = _
    cases hc : sigil == c with
    | false => rw [Bool.or_false]
    | true => rw [Bool.or_true, ← beq_iff_eq.mp hc]; exact hsigil
  · rw [isSigil, List.any_append, List.any_cons, List.any_nil, Bool.or_false]
    rfl

theorem isSigil_ofScopes (scopes : List (Char × Lookup)) (c : Char) :
    (ofScopes scopes).isSigil c = scopes.any (·.1 == c) := by
  have hfold (sg : Sigils) : (scopes.foldl (fun sg s => sg.register s.1 s.2) sg).isSigil c =
      (sg.isSigil c || scopes.any (·.1 == c)) := by
    induction scopes generalizing sg with
    | nil => exact (Bool.or_false _).symm
    | cons s scopes ih =>
      rw [List.foldl_cons, ih, isSigil_register, List.any_cons, Bool.or_assoc]
  exact hfold {}

/-- The scopes that a sigil searches. -/
def searched (sg : Sigils) (sigil : Char) : List Lookup :=
  (sg.entries.lookup sigil).getD []

theorem lookup_eq_findSome? (sg : Sigils) (sigil : Char) (name : List Char) :
    sg.lookup sigil name =
      ((sg.searched sigil).findSome? fun look => look (String.ofList name)).map String.toList := by
  rw [lookup, searched]
  cases sg.entries.lookup sigil <;> rfl

theorem lookup_map_register (entries : List (Char × List Lookup)) (sigil : Char) (look : Lookup)
    (c : Char) :
    (entries.map fun e => if e.1 == sigil then (e.1, e.2 ++ [look]) else e).lookup c =
      (entries.lookup c).map (· ++ if sigil = c then [look] else []) := by
  induction entries with
  | nil => rfl
  | cons e entries ih =>
    obtain ⟨key, looks⟩ := e
    rw [List.map_cons, List.lookup_cons]
    by_cases hkey : key = sigil
    · subst hkey
      rw [if_pos (beq_self_eq_true key), List.lookup_cons, ih]
      cases hc : c == key with
      | false => rfl
      | true =>
        rw [if_pos (beq_iff_eq.mp hc).symm]
        rfl
    · rw [if_neg fun h => hkey (beq_iff_eq.mp h), List.lookup_cons, ih]
      cases hc : c == key with
      | false => rfl
      | true =>
        obtain rfl := beq_iff_eq.mp hc
        rw [if_neg (Ne.symm hkey)]
        exact congrArg some (List.append_nil looks).symm

theorem searched_register (sg : Sigils) (sigil : Char) (look : Lookup) (c : Char) :
    (sg.register sigil look).searched c =
      sg.searched c ++ if sigil = c then [look] else [] := by
  rw [register]
  split
  · next hany =>
    rw [searched, lookup_map_register, searched]
    cases hlooks : sg.entries.lookup c with
    | some looks => rfl
    | none =>
      have hc : ¬ sigil = c := by
        rintro rfl
        rw [← isSigil, Substitution.lookup_entries_eq_none_iff.mp hlooks] at hany
        cases hany
      rw [if_neg hc]
      rfl
  · next hany =>
    rw [searched, List.lookup_append, searched, List.lookup_cons, List.lookup_nil]
    by_cases hc : sigil = c
    · subst hc
      rw [if_pos rfl, Substitution.lookup_entries_eq_none_iff.mpr (Bool.eq_false_iff.mpr hany),
        beq_self_eq_true]
      rfl
    · rw [if_neg hc, beq_false_of_ne (Ne.symm hc), Option.or_none, List.append_nil]

/-- A scope is asked behind those that the sigil searches already. -/
theorem lookup_register (sg : Sigils) (sigil : Char) (look : Lookup) (c : Char)
    (name : List Char) :
    (sg.register sigil look).lookup c name =
      (sg.lookup c name).or
        ((if sigil = c then look (String.ofList name) else none).map String.toList) := by
  rw [lookup_eq_findSome?, searched_register, List.findSome?_append, Option.map_or,
    ← lookup_eq_findSome?]
  split
  · rw [List.findSome?_singleton]
  · rfl

/-- The first scope registered for a sigil that has a name gives it this value. -/
def FirstValue (scopes : List (Char × Lookup)) (sigil : Char) (name : List Char) (value : String) :
    Prop :=
  ∃ before look after, scopes = before ++ (sigil, look) :: after ∧
    look (String.ofList name) = some value ∧
    ∀ s ∈ before, s.1 = sigil → s.2 (String.ofList name) = none

theorem lookup_ofScopes (scopes : List (Char × Lookup)) (sigil : Char) (name : List Char) :
    (ofScopes scopes).lookup sigil name =
      (scopes.findSome? fun s =>
        if s.1 = sigil then s.2 (String.ofList name) else none).map String.toList := by
  have hfold (sg : Sigils) :
      (scopes.foldl (fun sg s => sg.register s.1 s.2) sg).lookup sigil name =
        (sg.lookup sigil name).or ((scopes.findSome? fun s =>
          if s.1 = sigil then s.2 (String.ofList name) else none).map String.toList) := by
    induction scopes generalizing sg with
    | nil => exact (Option.or_none).symm
    | cons s scopes ih =>
      rw [List.foldl_cons, ih, lookup_register, List.findSome?_cons, Option.or_assoc]
      cases if s.1 = sigil then s.2 (String.ofList name) else none <;> rfl
  exact hfold {}

theorem lookup_ofScopes_eq_some_iff {value : List Char} :
    (ofScopes scopes).lookup sigil name = some value ↔
      ∃ v, FirstValue scopes sigil name v ∧ v.toList = value := by
  rw [lookup_ofScopes, Option.map_eq_some_iff]
  refine exists_congr fun v => and_congr_left fun _ => ?_
  rw [List.findSome?_eq_some_iff]
  constructor
  · rintro ⟨before, ⟨key, look⟩, after, rfl, hlook, hbefore⟩
    split at hlook
    · next hkey =>
      obtain rfl : key = sigil := hkey
      refine ⟨before, look, after, rfl, hlook, fun s hs hkey => ?_⟩
      exact (if_pos hkey).symm.trans (hbefore s hs)
    · cases hlook
  · rintro ⟨before, look, after, rfl, hlook, hbefore⟩
    refine ⟨before, (sigil, look), after, rfl, (if_pos rfl).trans hlook, fun s hs => ?_⟩
    split
    · next hkey => exact hbefore s hs hkey
    · rfl

end Sigils

namespace Substitution

variable {sg : Sigils} {scopes : List (Char × Lookup)} {sigil : Char} {name rest out : List Char}

/-! ## What a reference means -/

/-- What a reference means: the value of the longest front part of its name that has one, with what
is left of the name behind it, or else the reference itself. -/
inductive Means (scopes : List (Char × Lookup)) (sigil : Char) (name : List Char) :
    List Char → Prop where
  | known {front left : List Char} {value : String} :
      name = front ++ left → front ≠ [] → Sigils.FirstValue scopes sigil front value →
      (∀ longer, longer <+: name → front.length < longer.length →
        ∀ v, ¬ Sigils.FirstValue scopes sigil longer v) →
      Means scopes sigil name (value.toList ++ left)
  | unknown :
      (∀ front, front <+: name → front ≠ [] → ∀ v, ¬ Sigils.FirstValue scopes sigil front v) →
      Means scopes sigil name (sigil :: name)

/-- Looking for a known front part from a length on, when no longer one is known. -/
theorem means_of_resolve? {n : Nat} (hn : n ≤ name.length)
    (h : ∀ front, front <+: name → n < front.length →
      ∀ v, ¬ Sigils.FirstValue scopes sigil front v) :
    Means scopes sigil name
      (match resolve? (.ofScopes scopes) sigil name n with
        | some (value, left) => value ++ left
        | none => sigil :: name) := by
  induction n with
  | zero => exact .unknown fun front hfront hne => h front hfront (List.length_pos_iff.mpr hne)
  | succ n ih =>
    have hlength : (name.take (n + 1)).length = n + 1 := List.length_take_of_le hn
    rw [resolve?]
    cases hvalue : (Sigils.ofScopes scopes).lookup sigil (name.take (n + 1)) with
    | some value =>
      obtain ⟨v, hv, rfl⟩ := Sigils.lookup_ofScopes_eq_some_iff.mp hvalue
      have hne : name.take (n + 1) ≠ [] := List.length_pos_iff.mp (by omega)
      exact .known (List.take_append_drop (n + 1) name).symm hne hv fun longer hlonger hlt =>
        h longer hlonger (hlength ▸ hlt)
    | none =>
      refine ih (by omega) fun front hfront hlt v hv => ?_
      by_cases heq : front.length = n + 1
      · rw [List.prefix_iff_eq_take.mp hfront, heq] at hv
        rw [Sigils.lookup_ofScopes_eq_some_iff.mpr ⟨v, hv, rfl⟩] at hvalue
        cases hvalue
      · exact h front hfront (by omega) v hv

theorem means_expand (scopes : List (Char × Lookup)) (sigil : Char) (name : List Char) :
    Means scopes sigil name (expand (.ofScopes scopes) sigil name) :=
  means_of_resolve? le_rfl fun _ hfront hlt => absurd hfront.length_le (Nat.not_le.mpr hlt)

theorem Means.unique {out' : List Char} (h : Means scopes sigil name out)
    (h' : Means scopes sigil name out') : out = out' := by
  cases h with
  | @known front left value hname hne hvalue hlongest =>
    have hprefix : front <+: name := ⟨left, hname.symm⟩
    cases h' with
    | @known front' left' value' hname' hne' hvalue' hlongest' =>
      have hprefix' : front' <+: name := ⟨left', hname'.symm⟩
      have hlength : front.length = front'.length := by
        refine Nat.le_antisymm (Nat.not_lt.mp fun hlt => ?_) (Nat.not_lt.mp fun hlt => ?_)
        · exact hlongest' front hprefix hlt value hvalue
        · exact hlongest front' hprefix' hlt value' hvalue'
      obtain ⟨rfl, rfl⟩ := List.append_inj (hname.symm.trans hname') hlength
      have hlookup := Sigils.lookup_ofScopes_eq_some_iff.mpr ⟨value, hvalue, rfl⟩
      rw [Sigils.lookup_ofScopes_eq_some_iff.mpr ⟨value', hvalue', rfl⟩] at hlookup
      rw [Option.some.inj hlookup]
    | unknown hnone => exact absurd hvalue (hnone front hprefix hne value)
  | unknown hnone =>
    cases h' with
    | @known front left value hname hne hvalue _ =>
      exact absurd hvalue (hnone front ⟨left, hname.symm⟩ hne value)
    | unknown _ => rfl

/-! ## Texts with plain references -/

/-- A reference, and what stands behind it up to the next one. -/
structure Mention where
  sigil : Char
  name : List Char
  behind : List Char

/-- A plain reference: a name and no index, and no further reference behind it. -/
structure Mention.WellFormed (m : Mention) : Prop where
  sigil_mem : isIndexSigil m.sigil = true
  name_ne : m.name ≠ []
  name_chars : ∀ c ∈ m.name, isNameChar c = true
  behind_free : ∀ c ∈ m.behind, isIndexSigil c = false
  cut : ∀ c ∈ m.behind.head?, isNameChar c = false ∧ c ≠ '[' ∧ c ≠ '('

/-- Whether a character cannot stand right behind a plain reference. -/
def goesOn (c : Char) : Bool :=
  isNameChar c || c == '[' || c == '('

theorem eq_false_of_any {p : Char → Bool} {cs : List Char} (h : cs.any p = false) :
    ∀ c ∈ cs, p c = false :=
  fun c hc => Bool.eq_false_iff.mpr (List.any_eq_false.mp h c hc)

instance (m : Mention) : Decidable m.WellFormed :=
  decidable_of_iff (isIndexSigil m.sigil = true ∧ m.name ≠ [] ∧ m.name.all isNameChar = true ∧
      m.behind.any isIndexSigil = false ∧ m.behind.head?.any goesOn = false) <| by
    constructor
    · rintro ⟨hsigil, hne, hname, hbehind, hcut⟩
      refine ⟨hsigil, hne, List.all_eq_true.mp hname, eq_false_of_any hbehind, fun c hc => ?_⟩
      rw [Option.mem_def.mp hc] at hcut
      simpa [goesOn, and_assoc] using hcut
    · rintro ⟨hsigil, hne, hname, hbehind, hcut⟩
      refine ⟨hsigil, hne, List.all_eq_true.mpr hname, ?_, ?_⟩
      · exact List.any_eq_false.mpr fun c hc => Bool.eq_false_iff.mp (hbehind c hc)
      · cases hhead : m.behind.head? with
        | none => rfl
        | some c => simpa [goesOn, and_assoc] using hcut c hhead

/-- Plain references, each of which is cut off from the next. -/
def Apart : List Mention → Prop
  | [] => True
  | m :: ms => m.WellFormed ∧ (ms ≠ [] → m.behind ≠ []) ∧ Apart ms

instance : (ms : List Mention) → Decidable (Apart ms)
  | [] => inferInstanceAs (Decidable True)
  | m :: ms =>
      have : Decidable (Apart ms) := instDecidableApart ms
      inferInstanceAs (Decidable (m.WellFormed ∧ (ms ≠ [] → m.behind ≠ []) ∧ Apart ms))

/-- The text of references and what stands behind them. -/
def written (ms : List Mention) : List Char :=
  ms.flatMap fun m => m.sigil :: m.name ++ m.behind

/-- Every reference stands replaced by what it means. -/
inductive Replaces (scopes : List (Char × Lookup)) : List Mention → List Char → Prop where
  | nil : Replaces scopes [] []
  | cons {m : Mention} {ms : List Mention} {out rest : List Char} :
      Means scopes m.sigil m.name out → Replaces scopes ms rest →
      Replaces scopes (m :: ms) (out ++ m.behind ++ rest)

/-- A reference in a text in which the references under some sigils have been replaced. -/
def Mention.textIn (sg : Sigils) (done : Char → Bool) (m : Mention) : List Char :=
  if done m.sigil then expand sg m.sigil m.name else m.sigil :: m.name

/-- A text in which the references under some sigils have been replaced. -/
def textIn (sg : Sigils) (done : Char → Bool) (ms : List Mention) : List Char :=
  ms.flatMap fun m => m.textIn sg done ++ m.behind

theorem textIn_cons (sg : Sigils) (done : Char → Bool) (m : Mention) (ms : List Mention) :
    textIn sg done (m :: ms) = m.textIn sg done ++ (m.behind ++ textIn sg done ms) := by
  rw [textIn, List.flatMap_cons, List.append_assoc]
  rfl

/-- A reference is cut off from what follows it, also when that is the next reference. -/
theorem Mention.WellFormed.cut_append {m : Mention} {ms : List Mention} (hm : m.WellFormed)
    (sg : Sigils) (hbehind : ms ≠ [] → m.behind ≠ []) (done : Char → Bool) :
    ∀ c, (m.behind ++ Substitution.textIn sg done ms).head? = some c →
      isNameChar c = false ∧ c ≠ '[' ∧ c ≠ '(' := by
  by_cases hms : ms = []
  · rw [hms, Substitution.textIn, List.flatMap_nil, List.append_nil]
    exact hm.cut
  · rw [List.head?_append_of_ne_nil _ (hbehind hms)]
    exact hm.cut

theorem replaces_iff {ms : List Mention} {done : Char → Bool} (h : ∀ m ∈ ms, done m.sigil = true) :
    Replaces scopes ms out ↔ out = textIn (.ofScopes scopes) done ms := by
  induction ms generalizing out with
  | nil =>
    constructor
    · rintro ⟨⟩
      rfl
    · rintro rfl
      exact .nil
  | cons m ms ih =>
    obtain ⟨hm, hms⟩ := List.forall_mem_cons.mp h
    rw [textIn_cons, Mention.textIn, if_pos hm, ← List.append_assoc]
    constructor
    · rintro (_ | ⟨hmeans, hrest⟩)
      rw [hmeans.unique (means_expand ..), (ih hms).mp hrest]
    · rintro rfl
      exact .cons (means_expand ..) ((ih hms).mpr rfl)

/-! ## One sigil after another -/

theorem isIndexSigil_of_isNameChar {c : Char} (h : isNameChar c = true) :
    isIndexSigil c = false := by
  rw [← Bool.not_eq_true]
  intro hsigil
  have hc : c = '$' ∨ c = '%' ∨ c = '&' := by simpa [isIndexSigil, or_assoc] using hsigil
  rcases hc with rfl | rfl | rfl <;> exact absurd h (by decide)

theorem plainPass_reference (hname : ∀ c ∈ name, isNameChar c = true)
    (hrest : ∀ c, rest.head? = some c → isNameChar c = false) :
    plainPass sg sigil (sigil :: name ++ rest) =
      expand sg sigil name ++ plainPass sg sigil rest := by
  obtain ⟨htake, hdrop⟩ := takeWhile_run hname hrest
  rw [List.cons_append, plainPass, if_pos rfl, htake, hdrop]

/-! ## One reference -/

section OneReference

variable {value : List Char}

theorem expand_of_lookup (hne : name ≠ []) (h : sg.lookup sigil name = some value) :
    expand sg sigil name = value := by
  obtain ⟨n, hn⟩ := Nat.exists_eq_succ_of_ne_zero (List.length_pos_iff.mpr hne).ne'
  have hwhole : name.take (n + 1) = name := List.take_of_length_le hn.le
  have hleft : name.drop (n + 1) = [] := List.drop_of_length_le hn.le
  rw [expand, hn, resolve?, hwhole, h, hleft]
  exact List.append_nil value

variable (hne : name ≠ []) (hname : ∀ c ∈ name, isNameChar c = true)
  (hvalue : sg.lookup sigil name = some value) (hplain : ∀ c ∈ value, sg.isSigil c = false)
  (hfree : ∀ c ∈ name ++ rest, sg.isSigil c = false)

include hne hname hvalue hplain hfree

/-- The sigils in front of the one of a reference leave it as it is, and those behind find nothing
any more. -/
theorem foldl_plainPass_reference (hcut : ∀ c, rest.head? = some c → isNameChar c = false)
    {entries : List (Char × List Lookup)} (hentries : ∀ e ∈ entries, e ∈ sg.entries)
    (hsigil : ∃ e ∈ entries, e.1 = sigil) :
    entries.foldl (fun cs e => plainPass sg e.1 cs) (sigil :: name ++ rest) = value ++ rest := by
  obtain ⟨-, hrest⟩ := List.forall_mem_append.mp hfree
  induction entries with
  | nil => simp at hsigil
  | cons e entries ih =>
    obtain ⟨he, hentries⟩ := List.forall_mem_cons.mp hentries
    rw [List.foldl_cons]
    by_cases hkey : e.1 = sigil
    · have hdone : ∀ c ∈ value ++ rest, sg.isSigil c = false :=
        List.forall_mem_append.mpr ⟨hplain, hrest⟩
      rw [← hkey, plainPass_reference hname hcut, plainPass_of_ne (ne_of_isSigil he hrest), hkey,
        expand_of_lookup hne hvalue]
      exact foldl_plainPass_eq_self fun e' he' =>
        plainPass_of_ne (ne_of_isSigil (hentries e' he') hdone)
    · have hother : ∀ c ∈ sigil :: name ++ rest, c ≠ e.1 :=
        List.forall_mem_cons.mpr ⟨Ne.symm hkey, ne_of_isSigil he hfree⟩
      rw [plainPass_of_ne hother]
      refine ih hentries ?_
      obtain ⟨e', he', hkey'⟩ := hsigil
      obtain rfl | hmem := List.mem_cons.mp he'
      · exact absurd hkey' hkey
      · exact ⟨e', hmem, hkey'⟩

/-- **A text with one reference, to a value without sigils, becomes the text with this value in its
place.**  The values of other names do not matter. -/
theorem result?_reference
    (hcut : ∀ c, rest.head? = some c → isNameChar c = false ∧ c ≠ '[' ∧ c ≠ '(') :
    result? sg (sigil :: name ++ rest) = some (value ++ rest) := by
  obtain ⟨-, hrest⟩ := List.forall_mem_append.mp hfree
  have hdone : ∀ c ∈ value ++ rest, sg.isSigil c = false :=
    List.forall_mem_append.mpr ⟨hplain, hrest⟩
  have hunlisted : Unlisted sg (sigil :: (name ++ rest)) := by
    refine ⟨fun _ r more hread => ?_, unlisted_of_isSigil hfree⟩
    rw [readIndexed?_of_unopened hname hcut] at hread
    cases hread
  have hsigil : ∃ e ∈ sg.entries, e.1 = sigil := by
    obtain ⟨e, he, hkey⟩ := List.any_eq_true.mp (isSigil_of_lookup hvalue)
    exact ⟨e, he, beq_iff_eq.mp hkey⟩
  have hpass : plainText sg (sigil :: name ++ rest) = value ++ rest :=
    foldl_plainPass_reference hne hname hvalue hplain hfree (fun c hc => (hcut c hc).1)
      (fun _ he => he) hsigil
  have hsettled := unlisted_of_isSigil hdone
  rw [← hpass] at hsettled ⊢
  refine result?_of_unlisted hunlisted hsettled ?_
  rw [hpass, plainText_of_isSigil hdone]

end OneReference

section Passes

variable (hvalues : ∀ sigil name value, sg.lookup sigil name = some value →
  ∀ c ∈ value, isIndexSigil c = false)

include hvalues

theorem isIndexSigil_of_resolve? {n : Nat} {value left : List Char}
    (hname : ∀ c ∈ name, isNameChar c = true)
    (h : resolve? sg sigil name n = some (value, left)) :
    ∀ c ∈ value ++ left, isIndexSigil c = false := by
  induction n with
  | zero => cases h
  | succ n ih =>
    rw [resolve?] at h
    cases hlookup : sg.lookup sigil (name.take (n + 1)) with
    | none =>
      rw [hlookup] at h
      exact ih h
    | some found =>
      rw [hlookup] at h
      obtain ⟨rfl, rfl⟩ := Prod.mk.inj (Option.some.inj h)
      intro c hc
      rcases List.mem_append.mp hc with hc | hc
      · exact hvalues _ _ _ hlookup c hc
      · exact isIndexSigil_of_isNameChar (hname c (List.mem_of_mem_drop hc))

/-- What a reference becomes is itself, or has no sigils. -/
theorem expand_eq_or (hname : ∀ c ∈ name, isNameChar c = true) :
    expand sg sigil name = sigil :: name ∨ ∀ c ∈ expand sg sigil name, isIndexSigil c = false := by
  rw [expand]
  cases hresolve : resolve? sg sigil name name.length with
  | none => exact .inl rfl
  | some found => exact .inr (isIndexSigil_of_resolve? hvalues hname hresolve)

/-- Expanding the references under a sigil adds it to those that are done. -/
theorem Mention.WellFormed.plainPass_textIn {m : Mention} {done : Char → Bool} (hm : m.WellFormed)
    (hsigil : isIndexSigil sigil = true) (hrest : ∀ c, rest.head? = some c → isNameChar c = false) :
    plainPass sg sigil (m.textIn sg done ++ rest) =
      m.textIn sg (fun c => done c || c == sigil) ++ plainPass sg sigil rest := by
  have hplain {cs : List Char} (hcs : ∀ c ∈ cs, isIndexSigil c = false) :
      plainPass sg sigil (cs ++ rest) = cs ++ plainPass sg sigil rest := by
    refine plainPass_append (fun c hc => ?_) rest
    rintro rfl
    exact Bool.false_ne_true ((hcs c hc).symm.trans hsigil)
  have hwritten : plainPass sg sigil (m.sigil :: m.name ++ rest) =
      (if m.sigil = sigil then expand sg m.sigil m.name else m.sigil :: m.name) ++
        plainPass sg sigil rest := by
    split
    · next heq =>
      rw [heq]
      exact plainPass_reference hm.name_chars hrest
    · next hne =>
      rw [List.cons_append, plainPass, if_neg hne,
        hplain fun c hc => isIndexSigil_of_isNameChar (hm.name_chars c hc)]
      rfl
  rw [textIn, textIn]
  cases hdone : done m.sigil with
  | false =>
    rw [if_neg Bool.false_ne_true, hwritten, Bool.false_or]
    simp only [beq_iff_eq]
  | true =>
    rw [if_pos rfl, Bool.true_or, if_pos rfl]
    have hexpand : expand sg m.sigil m.name = m.sigil :: m.name ∨ _ :=
      expand_eq_or hvalues hm.name_chars
    rcases hexpand with heq | hcs
    · -- A reference that is not known stays as it is when its sigil comes once more.
      rw [heq, hwritten, heq, ite_self]
    · exact hplain hcs

theorem Mention.WellFormed.unlisted_textIn {m : Mention} {done : Char → Bool} (hm : m.WellFormed)
    (hrest : ∀ c, rest.head? = some c → isNameChar c = false ∧ c ≠ '[' ∧ c ≠ '(')
    (hunlisted : Unlisted sg rest) : Unlisted sg (m.textIn sg done ++ rest) := by
  have hname : ∀ c ∈ m.name, isIndexSigil c = false := fun c hc =>
    isIndexSigil_of_isNameChar (hm.name_chars c hc)
  have hwritten : Unlisted sg (m.sigil :: m.name ++ rest) := by
    refine ⟨fun _ r more hread => ?_, unlisted_append hname hunlisted⟩
    have hnone : readIndexed? m.sigil (m.name ++ rest) = none :=
      readIndexed?_of_unopened hm.name_chars hrest
    rw [List.append_eq, hnone] at hread
    cases hread
  have hexpand : expand sg m.sigil m.name = m.sigil :: m.name ∨ _ :=
    expand_eq_or hvalues hm.name_chars
  rw [textIn]
  split
  · rcases hexpand with heq | hcs
    · exact heq ▸ hwritten
    · exact unlisted_append hcs hunlisted
  · exact hwritten

/-- A text in which references have been replaced, or not yet, holds none with an index. -/
theorem unlisted_textIn {ms : List Mention} (h : Apart ms) (done : Char → Bool) :
    Unlisted sg (textIn sg done ms) := by
  induction ms with
  | nil => trivial
  | cons m ms ih =>
    obtain ⟨hm, hbehind, hms⟩ := h
    rw [textIn_cons]
    exact hm.unlisted_textIn hvalues (hm.cut_append sg hbehind done)
      (unlisted_append hm.behind_free (ih hms))

theorem plainPass_textIn {ms : List Mention} (h : Apart ms) (hsigil : isIndexSigil sigil = true)
    (done : Char → Bool) :
    plainPass sg sigil (textIn sg done ms) = textIn sg (fun c => done c || c == sigil) ms := by
  induction ms with
  | nil => rw [textIn, List.flatMap_nil, plainPass]; rfl
  | cons m ms ih =>
    obtain ⟨hm, hbehind, hms⟩ := h
    have hfree : ∀ c ∈ m.behind, c ≠ sigil := by
      rintro c hc rfl
      exact Bool.false_ne_true ((hm.behind_free c hc).symm.trans hsigil)
    have hcut := hm.cut_append sg hbehind done
    rw [textIn_cons, hm.plainPass_textIn hvalues hsigil fun c hc => (hcut c hc).1,
      plainPass_append hfree, ih hms, textIn_cons]

/-- One pass replaces the references under every sigil. -/
theorem plainText_textIn {ms : List Mention} {front : List Char} (h : Apart ms)
    (hsigils : ∀ c, sg.isSigil c = true → isIndexSigil c = true)
    (hfront : ∀ c ∈ front, isIndexSigil c = false) (done : Char → Bool) :
    plainText sg (front ++ textIn sg done ms) =
      front ++ textIn sg (fun c => done c || sg.isSigil c) ms := by
  have hentries : ∀ e ∈ sg.entries, isIndexSigil e.1 = true := fun e he =>
    hsigils e.1 (List.any_eq_true.mpr ⟨e, he, beq_self_eq_true e.1⟩)
  rw [plainText]
  simp only [Sigils.isSigil]
  generalize sg.entries = entries at hentries
  induction entries generalizing done with
  | nil => simp only [List.any_nil, Bool.or_false, List.foldl_nil]
  | cons e entries ih =>
    obtain ⟨he, hentries⟩ := List.forall_mem_cons.mp hentries
    have hfree : ∀ c ∈ front, c ≠ e.1 := by
      rintro c hc rfl
      exact Bool.false_ne_true ((hfront e.1 hc).symm.trans he)
    rw [List.foldl_cons, plainPass_append hfree, plainPass_textIn hvalues h he, ih _ hentries]
    simp only [List.any_cons, Bool.or_assoc, Bool.beq_comm]

end Passes

/-- **Plain references are replaced by what they mean, all at once.**  The references are apart from
one another, the values have no sigils, and what stands in front of the references and behind each
stays as it is.  There is one text that comes of this, and putting variables in gives it. -/
theorem result?_written {front : List Char} {ms : List Mention}
    (hsigils : ∀ s ∈ scopes, isIndexSigil s.1 = true)
    (hvalues : ∀ s ∈ scopes, ∀ name value, s.2 name = some value →
      ∀ c ∈ value.toList, isIndexSigil c = false)
    (hfront : ∀ c ∈ front, isIndexSigil c = false) (hms : Apart ms)
    (hregistered : ∀ m ∈ ms, ∃ s ∈ scopes, s.1 = m.sigil) :
    ∃ out, (∀ out', Replaces scopes ms out' ↔ out' = out) ∧
      result? (.ofScopes scopes) (front ++ written ms) = some (front ++ out) := by
  have hsigils' : ∀ c, (Sigils.ofScopes scopes).isSigil c = true → isIndexSigil c = true := by
    intro c hc
    obtain ⟨s, hs, hkey⟩ := List.any_eq_true.mp ((Sigils.isSigil_ofScopes scopes c).symm.trans hc)
    exact beq_iff_eq.mp hkey ▸ hsigils s hs
  have hvalues' : ∀ sigil name value, (Sigils.ofScopes scopes).lookup sigil name = some value →
      ∀ c ∈ value, isIndexSigil c = false := by
    intro sigil name value hlookup
    obtain ⟨v, ⟨before, look, after, rfl, hlook, -⟩, rfl⟩ :=
      Sigils.lookup_ofScopes_eq_some_iff.mp hlookup
    exact hvalues (sigil, look) (List.mem_append_right _ (List.mem_cons_self ..)) _ _ hlook
  have hdone : ∀ m ∈ ms, (Sigils.ofScopes scopes).isSigil m.sigil = true := by
    intro m hm
    obtain ⟨s, hs, hkey⟩ := hregistered m hm
    rw [Sigils.isSigil_ofScopes]
    exact List.any_eq_true.mpr ⟨s, hs, beq_iff_eq.mpr hkey⟩
  have hunlisted (done : Char → Bool) :
      Unlisted (.ofScopes scopes) (front ++ textIn (.ofScopes scopes) done ms) :=
    unlisted_append hfront (unlisted_textIn hvalues' hms done)
  have hplain (done : Char → Bool) := plainText_textIn hvalues' hms hsigils' hfront done
  refine ⟨textIn (.ofScopes scopes) (Sigils.ofScopes scopes).isSigil ms,
    fun out' => replaces_iff hdone, ?_⟩
  have hresult := result?_of_unlisted (hunlisted fun _ => false)
  simp only [hplain, Bool.false_or, Bool.or_self] at hresult
  exact hresult (hunlisted _) trivial

/-- Two scopes for one sigil, and one for another that is asked between them. -/
def threeScopes : List (Char × Lookup) :=
  [('$', fun name => if name = "a" then some "x" else none),
    ('%', fun name => if name = "b.c" then some "y" else none),
    ('$', fun name => if name = "a" then some "z" else if name = "bc" then some "w" else none)]

/-- The value of the first scope, a value with what is left of the name, a value of the second
scope, and a reference that stays. -/
def fourMentions : List Mention :=
  [⟨'$', ['a'], [',', ' ']⟩, ⟨'%', ['b', '.', 'c', '-', 'd'], [';']⟩, ⟨'$', ['b', 'c', 'd'], [' ']⟩,
    ⟨'%', ['b'], ['!']⟩]

theorem isIndexSigil_of_threeScopes : ∀ s ∈ threeScopes, ∀ name value, s.2 name = some value →
    ∀ c ∈ value.toList, isIndexSigil c = false := by
  have hplain : ∀ v ∈ ["x", "y", "z", "w"], v.toList.any isIndexSigil = false := by decide
  intro s hs name value hvalue
  refine eq_false_of_any (hplain value ?_)
  simp only [threeScopes, List.mem_cons, List.not_mem_nil, or_false] at hs
  rcases hs with rfl | rfl | rfl <;> grind

theorem apart_fourMentions : Apart fourMentions := by
  decide

theorem result?_threeScopes :
    result? (.ofScopes threeScopes) "Go $a, %b.c-d;$bcd %b!".toList =
      some "Go x, y-d;wd %b!".toList := by
  have htext : ['G', 'o', ' '] ++ written fourMentions = "Go $a, %b.c-d;$bcd %b!".toList := by
    decide
  have hfront : ∀ c ∈ ['G', 'o', ' '], isIndexSigil c = false := eq_false_of_any rfl
  obtain ⟨out, hout, hresult⟩ := result?_written (by decide) isIndexSigil_of_threeScopes hfront
    apart_fourMentions (by decide)
  have hdone : ∀ m ∈ fourMentions, (Sigils.ofScopes threeScopes).isSigil m.sigil = true := by decide
  have hreplaces : Replaces threeScopes fourMentions "x, y-d;wd %b!".toList :=
    (replaces_iff hdone).mpr (by decide +kernel)
  rw [← htext, hresult, ← (hout _).mp hreplaces]
  rfl

end Substitution

end StreamScript
