/-!
# Bindings

A finite map from names to values, kept as a list in the order of its names.
Order is part of the type, so a map has exactly one representation: two maps that
give every name the same value are equal (`ext_get?`), and a listing of a map
needs no sorting.

Insertion goes through the list once and replaces what it finds.  That one pass
makes the lookup laws hold without an appeal to the order.
-/

namespace StreamScript

/-- Names with values, in increasing order of the names. -/
structure Bindings (α : Type) where
  entries : List (String × α)
  sorted : entries.Pairwise fun a b => a.1 < b.1

namespace Bindings

variable {α : Type}

/-- The bindings of no name. -/
def empty : Bindings α :=
  ⟨[], .nil⟩

instance : Inhabited (Bindings α) := ⟨empty⟩

instance [DecidableEq α] : DecidableEq (Bindings α) := fun a b =>
  if h : a.entries = b.entries then
    .isTrue (by cases a; cases b; cases h; rfl)
  else .isFalse fun e => h (e ▸ rfl)

/-- The value of a name in a list of entries. -/
def find (k : String) : List (String × α) → Option α
  | [] => none
  | (k', v) :: rest => if k' = k then some v else find k rest

/-- Puts an entry in its place, or in the place of one with the same name. -/
def place (k : String) (v : α) : List (String × α) → List (String × α)
  | [] => [(k, v)]
  | (k', v') :: rest =>
      if k < k' then (k, v) :: (k', v') :: rest
      else if k' = k then (k, v) :: rest
      else (k', v') :: place k v rest

theorem mem_place {k : String} {v : α} {e : String × α} {l : List (String × α)}
    (h : e ∈ place k v l) : e = (k, v) ∨ e ∈ l := by
  induction l with
  | nil => simpa [place] using h
  | cons hd tl ih =>
    obtain ⟨k', v'⟩ := hd
    simp only [place] at h
    split at h
    · simpa using h
    · split at h
      · simp only [List.mem_cons] at h ⊢
        exact h.imp_right .inr
      · simp only [List.mem_cons] at h ⊢
        rcases h with h | h
        · exact .inr (.inl h)
        · exact (ih h).imp_right .inr

theorem sorted_place (k : String) (v : α) {l : List (String × α)}
    (h : l.Pairwise fun a b => a.1 < b.1) : (place k v l).Pairwise fun a b => a.1 < b.1 := by
  induction l with
  | nil => simp [place]
  | cons hd tl ih =>
    obtain ⟨k', v'⟩ := hd
    obtain ⟨hhd, htl⟩ := List.pairwise_cons.mp h
    simp only [place]
    split
    · next hlt =>
      refine List.pairwise_cons.mpr ⟨?_, h⟩
      intro e he
      rcases List.mem_cons.mp he with rfl | he
      · exact hlt
      · exact String.lt_trans hlt (hhd e he)
    · next hlt =>
      split
      · next heq =>
        subst heq
        exact List.pairwise_cons.mpr ⟨hhd, htl⟩
      · next hne =>
        refine List.pairwise_cons.mpr ⟨?_, ih htl⟩
        intro e he
        rcases mem_place he with rfl | he
        · rcases String.le_total k' k with hle | hle
          · rcases Decidable.em (k' < k) with hlt' | hlt'
            · exact hlt'
            · exact absurd (String.le_antisymm hle (String.not_lt.mp hlt')) hne
          · exact absurd (String.le_antisymm (String.not_lt.mp hlt) hle) hne
        · exact hhd e he

/-- The value bound to a name. -/
def get? (b : Bindings α) (k : String) : Option α :=
  find k b.entries

/-- Binds a name to a value. -/
def insert (b : Bindings α) (k : String) (v : α) : Bindings α :=
  ⟨place k v b.entries, sorted_place k v b.sorted⟩

/-- Unbinds a name. -/
def erase (b : Bindings α) (k : String) : Bindings α :=
  ⟨b.entries.filter fun e => e.1 != k, b.sorted.sublist List.filter_sublist⟩

/-- Whether a name is bound. -/
def contains (b : Bindings α) (k : String) : Bool :=
  (b.get? k).isSome

/-- The number of names bound. -/
def size (b : Bindings α) : Nat :=
  b.entries.length

/-- The entries in the order of their names. -/
def toList (b : Bindings α) : List (String × α) :=
  b.entries

/-- The names in order. -/
def keys (b : Bindings α) : List String :=
  b.entries.map (·.1)

/-- Binds the names of a list one after another; a later binding replaces an earlier one. -/
def ofList (l : List (String × α)) : Bindings α :=
  l.foldl (fun b e => b.insert e.1 e.2) empty

@[simp] theorem get?_empty (k : String) : (empty : Bindings α).get? k = none := rfl

@[simp] theorem find_place (k k' : String) (v : α) (l : List (String × α)) :
    find k' (place k v l) = if k = k' then some v else find k' l := by
  induction l with
  | nil => simp [place, find]
  | cons hd tl ih =>
    obtain ⟨k₀, v₀⟩ := hd
    simp only [place]
    split
    · simp [find]
    · split
      · next heq => subst heq; simp only [find]; split <;> simp_all
      · next hne =>
        simp only [find, ih]
        by_cases h : k = k'
        · subst h; simp [hne]
        · simp [h]

/-- A name just bound has the value it was bound to, and no other name changes. -/
@[simp] theorem get?_insert (b : Bindings α) (k k' : String) (v : α) :
    (b.insert k v).get? k' = if k = k' then some v else b.get? k' :=
  find_place k k' v b.entries

/-- A name just unbound has no value, and no other name changes. -/
@[simp] theorem get?_erase (b : Bindings α) (k k' : String) :
    (b.erase k).get? k' = if k = k' then none else b.get? k' := by
  obtain ⟨l, hl⟩ := b
  simp only [get?, erase]
  clear hl
  induction l with
  | nil => simp [find]
  | cons hd tl ih =>
    obtain ⟨k₀, v₀⟩ := hd
    by_cases h0 : k₀ = k
    · subst h0
      simp only [bne_self_eq_false, Bool.false_eq_true, not_false_eq_true,
        List.filter_cons_of_neg, ih, find]
      split <;> rfl
    · have hne : (k₀ != k) = true := by simpa using h0
      simp only [List.filter_cons, hne, if_true, find, ih]
      by_cases h : k = k'
      · subst h; simp [h0]
      · simp [h]

theorem mem_of_find {k : String} {v : α} {l : List (String × α)} (h : find k l = some v) :
    (k, v) ∈ l := by
  induction l with
  | nil => cases h
  | cons e l ih =>
    simp only [find] at h
    split at h
    · next heq =>
      obtain rfl := Option.some.inj h
      exact heq ▸ List.mem_cons_self ..
    · exact List.mem_cons_of_mem _ (ih h)

theorem find_eq_none_of_lt {k : String} {l : List (String × α)} (h : ∀ e ∈ l, k < e.1) :
    find k l = none := by
  induction l with
  | nil => rfl
  | cons hd tl ih =>
    obtain ⟨k₀, v₀⟩ := hd
    have h0 : k < k₀ := h (k₀, v₀) (by simp)
    have hne : k₀ ≠ k := fun e => String.lt_irrefl k (e ▸ h0)
    simp only [find, if_neg hne]
    exact ih fun e he => h e (by simp [he])

theorem entries_eq_of_find_eq {l m : List (String × α)}
    (hl : l.Pairwise fun a b => a.1 < b.1) (hm : m.Pairwise fun a b => a.1 < b.1)
    (h : ∀ k, find k l = find k m) : l = m := by
  induction l generalizing m with
  | nil =>
    cases m with
    | nil => rfl
    | cons hd tl => have := h hd.1; simp [find] at this
  | cons hd tl ih =>
    cases m with
    | nil => have := h hd.1; simp [find] at this
    | cons hd' tl' =>
      obtain ⟨hhd, htl⟩ := List.pairwise_cons.mp hl
      obtain ⟨hhd', htl'⟩ := List.pairwise_cons.mp hm
      have hkey : hd.1 = hd'.1 := by
        rcases Decidable.em (hd.1 < hd'.1) with hlt | hlt
        · have hnone : find hd.1 (hd' :: tl') = none := by
            refine find_eq_none_of_lt fun e he => ?_
            rcases List.mem_cons.mp he with rfl | he
            · exact hlt
            · exact String.lt_trans hlt (hhd' e he)
          have := h hd.1
          rw [hnone] at this
          simp [find] at this
        · rcases Decidable.em (hd'.1 < hd.1) with hlt' | hlt'
          · have hnone : find hd'.1 (hd :: tl) = none := by
              refine find_eq_none_of_lt fun e he => ?_
              rcases List.mem_cons.mp he with rfl | he
              · exact hlt'
              · exact String.lt_trans hlt' (hhd e he)
            have := h hd'.1
            rw [hnone] at this
            simp [find] at this
          · exact String.le_antisymm (String.not_lt.mp hlt') (String.not_lt.mp hlt)
      have hval : hd.2 = hd'.2 := by
        have := h hd.1
        simpa [find, hkey] using this
      have htail : tl = tl' := by
        refine ih htl htl' fun k => ?_
        by_cases hk : hd.1 = k
        · subst hk
          rw [find_eq_none_of_lt hhd, find_eq_none_of_lt (fun e he => hkey ▸ hhd' e he)]
        · have := h k
          simpa [find, hk, hkey ▸ hk] using this
      rw [htail, show hd = hd' from Prod.ext hkey hval]

/-- **Maps that agree on every name are equal.** -/
theorem ext_get? {a b : Bindings α} (h : ∀ k, a.get? k = b.get? k) : a = b := by
  have he := entries_eq_of_find_eq a.sorted b.sorted h
  cases a; cases b; cases he; rfl

end Bindings

/-- The variables of one scope. -/
abbrev Scope : Type := Bindings String

namespace Scope

/-- The entries of a list under the names `n`, `n + 1`, …. -/
def indexedFrom (n : Nat) : List String → List (String × String)
  | [] => []
  | v :: rest => (String.ofList (Nat.toDigits 10 n), v) :: indexedFrom (n + 1) rest

/-- The scope that holds a list under the names `0`, `1`, `2`, …. -/
def indexed (values : List String) : Scope :=
  Bindings.ofList (indexedFrom 0 values)

end Scope

end StreamScript
