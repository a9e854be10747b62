import StreamScript.Vars.Store

/-!
# Mirrors of the global store

Whoever hears every change of a store can keep a mirror of its literal variables: a
map of his own, to which each change is applied as it comes.  The computed variables
he knows beforehand, for they are fixed when the store is made.

The mirror is right at any time (`changes_faithful`).  What carries the proof is what
one write does (`perform_cases`): it has something to change, and then it emits one
change that does to any mirror what was done to the store, or it leaves everything as
it is.

Readers of a store see one table, in which the literal variables are entered first
and the computed ones over them.  No key is of both kinds (`Store.Apart`), so nothing
is lost on the way, and the table is the computed variables and the mirror, put in
order (`Apart.shows`).
-/

namespace StreamScript

/-! ## Entering variables into a table -/

namespace Bindings

variable {α β : Type} {k : String} {v : α} {b : Bindings α} {l : List (String × α)}

theorem get?_eq_none_iff : b.get? k = none ↔ k ∉ b.keys := by
  rw [get?, keys]
  induction b.entries with
  | nil => simp [find]
  | cons e l ih =>
    rw [find, List.map_cons, List.mem_cons, not_or, ← ih]
    split
    · next heq => simp [heq]
    · next hne => simp [Ne.symm hne]

theorem nodup_keys (b : Bindings α) : b.keys.Nodup :=
  List.pairwise_map.mpr (b.sorted.imp fun hlt => String.ne_of_lt hlt)

theorem place_perm (h : find k l = none) : (place k v l).Perm ((k, v) :: l) := by
  induction l with
  | nil => exact .refl _
  | cons e l ih =>
    rw [find] at h
    rw [place]
    split at h
    · cases h
    · next hne =>
      rw [if_neg hne]
      split
      · exact .refl _
      · exact ((ih h).cons e).trans (.swap ..)

/-- Names that are new, each of them once, are entered beside those that are there. -/
theorem foldl_insert_perm {f : β → α} {l : List (String × β)} (hnodup : (l.map (·.1)).Nodup)
    (hnew : ∀ e ∈ l, b.get? e.1 = none) :
    (l.foldl (fun b e => b.insert e.1 (f e.2)) b).entries.Perm
      ((l.map fun e => (e.1, f e.2)) ++ b.entries) := by
  induction l generalizing b with
  | nil => exact .refl _
  | cons e l ih =>
    obtain ⟨hfresh, hnodup⟩ := List.nodup_cons.mp hnodup
    have hnew' : ∀ e' ∈ l, (b.insert e.1 (f e.2)).get? e'.1 = none := by
      intro e' he'
      have hne : e.1 ≠ e'.1 := fun heq => hfresh (List.mem_map.mpr ⟨e', he', heq.symm⟩)
      rw [get?_insert, if_neg hne]
      exact hnew e' (List.mem_cons_of_mem _ he')
    have hplace : (b.insert e.1 (f e.2)).entries.Perm ((e.1, f e.2) :: b.entries) :=
      place_perm (hnew e List.mem_cons_self)
    exact (ih hnodup hnew').trans ((hplace.append_left _).trans List.perm_middle)

end Bindings

namespace Change

/-- Applies a change to a mirror of the literal variables. -/
def apply (change : Change) (mirror : Bindings String) : Bindings String :=
  match change.value with
  | some value => mirror.insert change.key value
  | none => mirror.erase change.key

/-- Applies changes one after another. -/
def replay (changes : List Change) (mirror : Bindings String) : Bindings String :=
  changes.foldl (fun mirror change => change.apply mirror) mirror

end Change

namespace Store

open Change

variable {s t : Store} {key value : String}

/-! ## What readers of a store see -/

/-- No key is computed and literal at once. -/
def Apart (s : Store) : Prop :=
  ∀ key, s.isComputed key = true → s.literals.get? key = none

/-- A reader of a store sees its computed variables and those of a mirror. -/
structure Shows (s : Store) (mirror : Bindings String) : Prop where
  get?_literal : ∀ key, s.isComputed key = false → s.get? key = mirror.get? key
  contains : ∀ key, s.contains key = (s.isComputed key || mirror.contains key)
  keys : s.keys.Perm (s.computed.keys ++ mirror.keys) ∧ s.keys.Pairwise (· < ·)
  toList : s.toList.Perm ((s.computed.toList.filterMap fun e =>
      (e.2.value s.now).map fun value => (e.1, value)) ++ mirror.toList) ∧
    s.toList.Pairwise fun a b => a.1 < b.1
  size : s.size = s.computed.size + mirror.size

theorem isComputed_eq_false_iff : s.isComputed key = false ↔ s.computed.get? key = none := by
  rw [isComputed, Bindings.contains, Option.isSome_eq_false_iff, Option.isNone_iff_eq_none]

/-- A key that is not computed has the value of the literal variable. -/
theorem get?_of_not_computed (h : s.isComputed key = false) : s.get? key = s.literals.get? key := by
  rw [get?, isComputed_eq_false_iff.mp h]

theorem get?_of_computed {c : Computed} (h : s.computed.get? key = some c) :
    s.get? key = c.value s.now := by
  rw [get?, h]

/-- In a store that keeps its variables apart, the table that readers see has an entry for each of
them. -/
theorem Apart.listing_perm (h : s.Apart) : s.listing.entries.Perm
    ((s.computed.entries.map fun e => (e.1, e.2.value s.now)) ++
      s.literals.entries.map fun e => (e.1, some e.2)) := by
  have hliterals := Bindings.foldl_insert_perm (f := some) (b := .empty) s.literals.nodup_keys
    fun _ _ => rfl
  rw [show (Bindings.empty : Bindings (Option String)).entries = [] from rfl,
    List.append_nil] at hliterals
  have hnew : ∀ e ∈ s.computed.entries, (s.literals.entries.foldl
      (fun b e => b.insert e.1 (some e.2)) (.empty : Bindings (Option String))).get? e.1 =
        none := by
    intro e he
    have hcomputed : s.isComputed e.1 = true := by
      rw [← Bool.not_eq_false, isComputed_eq_false_iff, Bindings.get?_eq_none_iff]
      exact not_not_intro (List.mem_map_of_mem he)
    have hliteral := Bindings.get?_eq_none_iff.mp (h e.1 hcomputed)
    refine Bindings.get?_eq_none_iff.mpr fun hmem => hliteral ?_
    rw [Bindings.keys, (hliterals.map (·.1)).mem_iff, List.map_map] at hmem
    exact hmem
  have hcomputed := Bindings.foldl_insert_perm (f := fun c : Computed => c.value s.now)
    s.computed.nodup_keys hnew
  exact hcomputed.trans (hliterals.append_left _)

/-- **What readers see** of a store that keeps its variables apart. -/
theorem Apart.shows (h : s.Apart) : s.Shows s.literals where
  get?_literal _ hliteral := get?_of_not_computed hliteral
  contains _ := rfl
  keys := by
    have hperm := h.listing_perm.map (·.1)
    rw [List.map_append, List.map_map, List.map_map] at hperm
    exact ⟨hperm, List.pairwise_map.mpr s.listing.sorted⟩
  toList := by
    have hperm := h.listing_perm.filterMap fun e : String × Option String =>
      e.2.map fun value => (e.1, value)
    rw [List.filterMap_append, List.filterMap_map, List.filterMap_map] at hperm
    have hall : s.literals.entries.filterMap ((fun e : String × Option String =>
        e.2.map fun value => (e.1, value)) ∘ fun e => (e.1, some e.2)) = s.literals.entries :=
      List.filterMap_some
    rw [hall] at hperm
    refine ⟨hperm, s.listing.sorted.filterMap _ fun e e' hlt a ha b hb => ?_⟩
    obtain ⟨-, -, rfl⟩ := Option.map_eq_some_iff.mp ha
    obtain ⟨-, -, rfl⟩ := Option.map_eq_some_iff.mp hb
    exact hlt
  size := by
    have hlength := h.listing_perm.length_eq
    rw [List.length_append, List.length_map, List.length_map] at hlength
    exact hlength

/-! ## One write -/

/-- A write to a store. -/
inductive Write where
  | set (key value : String)
  | remove (key : String)
  deriving DecidableEq, Repr

namespace Write

/-- Carries out a write. -/
def perform : Write → Store → Option Change × Store
  | .set key value, s => s.set key value
  | .remove key, s => s.remove key

/-- Whether a write is said to have taken effect. -/
def succeeds (write : Write) (s : Store) : Bool :=
  (write.perform s).1.isSome

/-- Whether a write has something to change in what readers of a store see. -/
def matters : Write → Store → Bool
  | .set key value, s => !s.isComputed key && s.get? key != some value
  | .remove key, s => !s.isComputed key && s.contains key

/-- What a write that has something to change does: it emits a change, and what that change does to
any mirror is done to the literal variables. -/
structure Emits (write : Write) (s : Store) (change : Change) : Prop where
  perform_eq : write.perform s = (some change, { s with literals := change.apply s.literals })
  literal : s.isComputed change.key = false
  ne : change.apply s.literals ≠ s.literals

/-- **What a write does.** -/
theorem perform_cases (write : Write) (s : Store) :
    (write.matters s = false ∧ write.perform s = (none, s)) ∨
      (write.matters s = true ∧ ∃ change, write.Emits s change) := by
  cases write with
  | set key value =>
    cases hcomputed : s.isComputed key with
    | true => exact .inl ⟨by simp [matters, hcomputed], by simp [perform, Store.set, hcomputed]⟩
    | false =>
      have hget := get?_of_not_computed hcomputed
      by_cases hsame : s.literals.get? key = some value
      · exact .inl ⟨by simp [matters, hget, hsame], by simp [perform, Store.set, hsame]⟩
      · refine .inr ⟨by simp [matters, hcomputed, hget, hsame], ⟨key, some value⟩, ?_, hcomputed,
          fun heq => hsame ?_⟩
        · simp [perform, Store.set, hcomputed, hsame, apply]
        · rw [← heq]
          exact (Bindings.get?_insert ..).trans (if_pos rfl)
  | remove key =>
    cases hcomputed : s.isComputed key with
    | true => exact .inl ⟨by simp [matters, hcomputed], by simp [perform, Store.remove, hcomputed]⟩
    | false =>
      cases hthere : s.literals.contains key with
      | false =>
        exact .inl ⟨by simp [matters, Store.contains, hcomputed, hthere],
          by simp [perform, Store.remove, hthere]⟩
      | true =>
        refine .inr ⟨by simp [matters, Store.contains, hcomputed, hthere], ⟨key, none⟩, ?_,
          hcomputed, fun heq => ?_⟩
        · simp [perform, Store.remove, hcomputed, hthere, apply]
        · have hgone : (s.literals.erase key).contains key = true := by
            rw [show s.literals.erase key = s.literals from heq, hthere]
          rw [Bindings.contains, Bindings.get?_erase, if_pos rfl] at hgone
          cases hgone

theorem computed_perform (write : Write) (s : Store) :
    (write.perform s).2.computed = s.computed := by
  obtain ⟨-, h⟩ | ⟨-, change, h⟩ := write.perform_cases s
  · rw [h]
  · rw [h.perform_eq]

/-- A write says that it took effect exactly where it had something to change. -/
theorem succeeds_eq_matters (write : Write) (s : Store) : write.succeeds s = write.matters s := by
  obtain ⟨hmatters, h⟩ | ⟨hmatters, change, h⟩ := write.perform_cases s
  · rw [succeeds, h, hmatters]
    rfl
  · rw [succeeds, h.perform_eq, hmatters]
    rfl

theorem apart_perform (h : s.Apart) (write : Write) : (write.perform s).2.Apart := by
  obtain ⟨-, heq⟩ | ⟨-, change, hemits⟩ := write.perform_cases s
  · rwa [heq]
  · rw [hemits.perform_eq]
    intro key hkey
    have hne : change.key ≠ key := by
      rintro rfl
      exact Bool.false_ne_true (hemits.literal.symm.trans hkey)
    have hkeep : (change.apply s.literals).get? key = s.literals.get? key := by
      rw [apply]
      split
      · rw [Bindings.get?_insert, if_neg hne]
      · rw [Bindings.get?_erase, if_neg hne]
    exact hkeep.trans (h key hkey)

end Write

/-! ## Many writes -/

/-- Carries out writes one after another. -/
def performAll (writes : List Write) (s : Store) : Store :=
  writes.foldl (fun s write => (write.perform s).2) s

/-- The changes that writes emit, in order. -/
def changes : List Write → Store → List Change
  | [], _ => []
  | write :: rest, s => (write.perform s).1.toList ++ changes rest (write.perform s).2

theorem changes_append (writes more : List Write) (s : Store) :
    changes (writes ++ more) s = changes writes s ++ changes more (performAll writes s) := by
  induction writes generalizing s with
  | nil => rfl
  | cons write rest ih =>
    rw [List.cons_append, changes, changes, ih, List.append_assoc]
    rfl

theorem computed_performAll (writes : List Write) (s : Store) :
    (performAll writes s).computed = s.computed := by
  induction writes generalizing s with
  | nil => rfl
  | cons write rest ih => exact (ih _).trans (write.computed_perform s)

theorem apart_performAll (h : s.Apart) (writes : List Write) : (performAll writes s).Apart := by
  induction writes generalizing s with
  | nil => exact h
  | cons write rest ih => exact ih (Write.apart_perform h write)

/-- Replaying the changes of writes does to the literal variables what the writes did. -/
theorem replay_changes (writes : List Write) (s : Store) :
    replay (changes writes s) s.literals = (performAll writes s).literals := by
  induction writes generalizing s with
  | nil => rfl
  | cons write rest ih =>
    have hrest := ih (write.perform s).2
    rw [changes]
    obtain ⟨-, h⟩ | ⟨-, change, h⟩ := write.perform_cases s
    · rw [h] at hrest ⊢
      rw [performAll, List.foldl_cons, h]
      exact hrest
    · rw [h.perform_eq] at hrest ⊢
      rw [performAll, List.foldl_cons, h.perform_eq]
      exact hrest

/-- Each change has something to change when its turn comes. -/
theorem apply_ne_of_changes {writes : List Write} {front back : List Change} {change : Change}
    (h : changes writes s = front ++ change :: back) :
    change.apply (replay front s.literals) ≠ replay front s.literals := by
  induction writes generalizing s front with
  | nil => cases front <;> cases h
  | cons write rest ih =>
    rw [changes] at h
    obtain ⟨-, hnone⟩ | ⟨-, first, hemits⟩ := write.perform_cases s
    · rw [hnone] at h
      exact ih h
    · rw [hemits.perform_eq] at h
      cases front with
      | nil =>
        obtain ⟨rfl, -⟩ := List.cons.inj h
        exact hemits.ne
      | cons first' front =>
        obtain ⟨rfl, hrest⟩ := List.cons.inj h
        exact ih (s := { s with literals := first.apply s.literals }) hrest

theorem apart_ofComputed (vars : List (String × Computed)) (now : Moment) :
    Apart { ofComputed vars with now := now } :=
  fun _ _ => rfl

/-- **The changes of a store are a faithful log.**  Make a store with any computed variables, write
to it for a while, and listen from then on.  Whatever is written, the computed variables are those
it was made with, and at any moment have the values that they have then.  The changes, applied in
order to the literal variables at the beginning, give those at the end, and this is what readers of
the store see beside the computed ones.  Every change has something to change when its turn comes.
And a write emits a change exactly where it is said to have taken effect, which is where it had
something to change. -/
theorem changes_faithful (vars : List (String × Computed)) (now : Moment)
    (earlier writes : List Write) :
    let s := performAll earlier { ofComputed vars with now := now }
    let t := performAll writes s
    let mirror (heard : List Change) := replay heard s.literals
    (∀ key, t.isComputed key = (Bindings.ofList vars).contains key) ∧
      (∀ key c later, (Bindings.ofList vars).get? key = some c →
        get? { t with now := later } key = c.value later) ∧
      mirror (changes writes s) = t.literals ∧
      t.Shows (mirror (changes writes s)) ∧
      (∀ front change back, changes writes s = front ++ change :: back →
        change.apply (mirror front) ≠ mirror front) ∧
      ∀ front write back, writes = front ++ write :: back →
        let u := performAll front s
        (write.succeeds u = true ↔ changes (front ++ [write]) s ≠ changes front s) ∧
          write.succeeds u = write.matters u := by
  intro s t mirror
  have hcomputed : t.computed = Bindings.ofList vars :=
    (computed_performAll writes s).trans (computed_performAll earlier _)
  have hearlier : s.Apart := apart_performAll (apart_ofComputed vars now) earlier
  have hapart : t.Apart := apart_performAll hearlier writes
  have hmirror : mirror (changes writes s) = t.literals := replay_changes writes s
  refine ⟨fun key => ?_, fun key c later hc => ?_, hmirror, ?_, fun _ _ _ => apply_ne_of_changes,
    fun front write back _ => ?_⟩
  · rw [isComputed, hcomputed]
  · exact get?_of_computed (s := { t with now := later }) (hcomputed ▸ hc)
  · rw [hmirror]
    exact hapart.shows
  · intro u
    refine ⟨?_, write.succeeds_eq_matters u⟩
    rw [changes_append, changes, changes, List.append_nil, ne_eq, List.append_right_eq_self,
      Write.succeeds]
    cases (write.perform u).1 <;> simp

end Store

end StreamScript
