/-!
# Plain search in text

A literal target is looked for character by character.  `dropPrefix?` is the one
primitive: a target occurs in a text exactly when it can be dropped from the
front of one of the text's tails, and every other search here is stated in those
terms.
-/

namespace StreamScript
namespace Text

/-- What is left of a text behind a given start, if it has that start. -/
def dropPrefix? : List Char → List Char → Option (List Char)
  | [], cs => some cs
  | _ :: _, [] => none
  | p :: ps, c :: cs => if p = c then dropPrefix? ps cs else none

theorem dropPrefix?_eq_some_iff {p cs rest : List Char} :
    dropPrefix? p cs = some rest ↔ cs = p ++ rest := by
  induction p generalizing cs with
  | nil => simp [dropPrefix?, eq_comm]
  | cons a p ih =>
    cases cs with
    | nil => simp [dropPrefix?]
    | cons c cs =>
      by_cases h : a = c
      · subst h; simp [dropPrefix?, ih]
      · simp [dropPrefix?, h, Ne.symm h]

/-- Cuts a text at the first occurrence of a target: what stands before it, and
what stands behind it. -/
def cutAt? (target : List Char) : List Char → Option (List Char × List Char)
  | [] => (dropPrefix? target []).map fun rest => ([], rest)
  | c :: cs =>
      match dropPrefix? target (c :: cs) with
      | some rest => some ([], rest)
      | none => (cutAt? target cs).map fun (front, back) => (c :: front, back)

/-- Whether a target occurs anywhere in a text. -/
def contains (target cs : List Char) : Bool :=
  (cutAt? target cs).isSome

theorem eq_of_cutAt? {target cs front back : List Char}
    (h : cutAt? target cs = some (front, back)) :
    cs = front ++ target ++ back := by
  induction cs generalizing front with
  | nil =>
    simp only [cutAt?, Option.map_eq_some_iff, Prod.mk.injEq] at h
    obtain ⟨rest, hrest, rfl, rfl⟩ := h
    simpa using dropPrefix?_eq_some_iff.mp hrest
  | cons c cs ih =>
    simp only [cutAt?] at h
    split at h
    · next rest hrest =>
      simp only [Option.some.injEq, Prod.mk.injEq] at h
      obtain ⟨rfl, rfl⟩ := h
      simpa using dropPrefix?_eq_some_iff.mp hrest
    · simp only [Option.map_eq_some_iff, Prod.mk.injEq] at h
      obtain ⟨⟨f, b⟩, hcut, rfl, rfl⟩ := h
      simpa using ih hcut

/-- **A target is found exactly when it is part of the text.** -/
theorem contains_iff {target cs : List Char} :
    contains target cs = true ↔ ∃ front back, cs = front ++ target ++ back := by
  constructor
  · intro h
    obtain ⟨⟨front, back⟩, hcut⟩ := Option.isSome_iff_exists.mp h
    exact ⟨front, back, eq_of_cutAt? hcut⟩
  · rintro ⟨front, back, rfl⟩
    induction front with
    | nil =>
      have h : dropPrefix? target ([] ++ target ++ back) = some back :=
        dropPrefix?_eq_some_iff.mpr (by simp)
      unfold contains
      cases hcs : [] ++ target ++ back with
      | nil => rw [hcs] at h; simp [cutAt?, h]
      | cons c cs => rw [hcs] at h; simp [cutAt?, h]
    | cons c front ih =>
      unfold contains at ih ⊢
      simp only [List.cons_append, cutAt?]
      split <;> simp_all

/-- Whether a text occurs in another. -/
def occursIn (target line : String) : Bool :=
  contains target.toList line.toList

/-- The number of places at which a target occurs, none of them overlapping the
one before. -/
def countFrom (target : List Char) (cs : List Char) : Nat :=
  match h : cutAt? target cs with
  | none => 0
  | some (_, back) =>
      if target = [] then 0
      else 1 + countFrom target back
termination_by cs.length
decreasing_by
  have := congrArg List.length (eq_of_cutAt? h)
  have hpos : 0 < target.length := List.length_pos_iff.mpr (by assumption)
  simp only [List.length_append] at this
  omega

end Text
end StreamScript
