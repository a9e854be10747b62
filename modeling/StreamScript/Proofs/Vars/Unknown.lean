import StreamScript.Proofs.Vars.Settling

/-!
# Texts without a known name

Putting variables into a text takes it apart and puts it together again, for references
with an index and for plain ones, under each sigil, and in each pass.  Where no name is
known, nothing is lost on the way: the text is what it was (`result?_of_unknown`),
whatever sigils and brackets stand in it.

A name is only looked up when it has a character.  A scope that knows the empty name,
as a set of numbered groups may, therefore does not matter.
-/

namespace StreamScript

namespace Substitution

variable {sg : Sigils} {sigil : Char} {name cs : List Char}

/-- No scope knows a name under its sigil; whether one knows the empty name is left open. -/
def Unknown (sg : Sigils) : Prop :=
  ∀ sigil name, name ≠ [] → sg.lookup sigil name = none

theorem unlisted_of_unknown (h : Unknown sg) (cs : List Char) : Unlisted sg cs := by
  induction cs with
  | nil => trivial
  | cons c cs ih =>
    refine ⟨fun _ r more hread => ?_, ih⟩
    obtain ⟨-, hr, -⟩ := readIndexed?_eq_some_iff.mp hread
    exact h c r.name hr.name_ne

/-- No front part of a name is known either, since the empty one is not tried. -/
theorem resolve?_of_unknown (h : Unknown sg) (sigil : Char) (name : List Char) {n : Nat}
    (hn : n ≤ name.length) : resolve? sg sigil name n = none := by
  induction n with
  | zero => rfl
  | succ n ih =>
    have hne : name.take (n + 1) ≠ [] := by
      rw [← List.length_pos_iff, List.length_take]
      omega
    rw [resolve?, h sigil _ hne]
    exact ih (by omega)

theorem expand_of_unknown (h : Unknown sg) (sigil : Char) (name : List Char) :
    expand sg sigil name = sigil :: name := by
  rw [expand, resolve?_of_unknown h sigil name le_rfl]

/-- Cut into names and what stands between them, a text is put together as it was. -/
theorem plainPass_of_unknown (h : Unknown sg) (sigil : Char) (cs : List Char) :
    plainPass sg sigil cs = cs := by
  fun_induction plainPass sg sigil cs with
  | case1 => rfl
  | case2 rest ih =>
    rw [expand_of_unknown h, ih, List.cons_append, List.takeWhile_append_dropWhile]
  | case3 c rest _ ih => rw [ih]

/-- **A text in which no name is known stays as it is**, and variables do stop being put into
it. -/
theorem result?_of_unknown (h : Unknown sg) (text : String) :
    result? sg text.toList = some text.toList ∧ sg.substitute text = text := by
  have hplain : plainText sg text.toList = text.toList :=
    plainText_eq_self fun e _ => plainPass_of_unknown h e.1 _
  have hunlisted := unlisted_of_unknown h text.toList
  have hresult := result?_of_unlisted hunlisted (unlisted_of_unknown h _) (congrArg _ hplain)
  rw [hplain] at hresult
  refine ⟨hresult, ?_⟩
  rw [Sigils.substitute, hresult]
  exact String.ofList_toList

/-- Scopes of which one knows the empty name, and none any other. -/
def blankScopes : Sigils :=
  ⟨[('$', [fun name => if name = "" then some "x" else none, fun _ => none]), ('&', []),
    ('%', [fun _ => none]), ('é', [fun _ => none])]⟩

theorem unknown_blankScopes : Unknown blankScopes := by
  intro sigil name hname
  have hempty : String.ofList name ≠ "" := fun h => hname (String.ofList_eq_empty_iff.mp h)
  rw [Sigils.lookup]
  split
  · rfl
  · next looks hlooks =>
    obtain ⟨front, back, hentries, -⟩ := List.lookup_eq_some_iff.mp hlooks
    have hmem : (sigil, looks) ∈ blankScopes.entries := hentries ▸ List.mem_append_right _
      (List.mem_cons_self ..)
    simp only [blankScopes, List.mem_cons, Prod.mk.injEq, List.not_mem_nil, or_false] at hmem
    rcases hmem with ⟨-, rfl⟩ | ⟨-, rfl⟩ | ⟨-, rfl⟩ | ⟨-, rfl⟩ <;> simp [hempty]

theorem result?_of_unknown_brackets :
    result? blankScopes "$$[%a](&é$b[$c])$b.-(1)%&)^".toList =
        some "$$[%a](&é$b[$c])$b.-(1)%&)^".toList ∧
      blankScopes.substitute "$$[%a](&é$b[$c])$b.-(1)%&)^" = "$$[%a](&é$b[$c])$b.-(1)%&)^" :=
  result?_of_unknown unknown_blankScopes _

end Substitution

end StreamScript
