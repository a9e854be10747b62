import Mathlib.Logic.Function.Iterate
import StreamScript.Script.Scopes

/-!
# Variables with numbers for names

A list is bound by giving each entry its place for a name.  Two places have different
names, so every entry is found again, and a name that is no number is not bound
(`Scope.bindsNumbers_indexed`).

The arguments of a script are bound so, all of them together under number zero and at
least nine places behind it.  Whenever the first argument is dropped, all is bound anew.
So the arguments that a script has after some have been dropped are those it would have
if it had been started without them, and nothing of the others is left
(`Scopes.shiftArgs_iterate`).
-/

namespace StreamScript

open Text Number

/-! ## Bindings by number -/

theorem Bindings.insert_insert {α : Type} (b : Bindings α) (k : String) (v w : α) :
    (b.insert k v).insert k w = b.insert k w := by
  refine Bindings.ext_get? fun k' => ?_
  rw [Bindings.get?_insert, Bindings.get?_insert, Bindings.get?_insert]
  split <;> rfl

namespace Scope

/-- The name of a number. -/
def numeral (n : Nat) : String :=
  String.ofList (Nat.toDigits 10 n)

theorem numeral_inj {m n : Nat} : numeral m = numeral n ↔ m = n := by
  refine ⟨fun h => ?_, congrArg numeral⟩
  have hdigits : Nat.toDigits 10 m = Nat.toDigits 10 n := String.ofList_injective h
  have hread := congrArg (fun ds => Nat.ofDigitChars 10 ds 0) hdigits
  simpa only [Nat.ofDigitChars_ten_toDigits] using hread

theorem get?_foldl_indexedFrom (n m : Nat) (values : List String) (b : Scope) :
    ((indexedFrom n values).foldl (fun b e => b.insert e.1 e.2) b).get? (numeral m) =
      (if n ≤ m then values[m - n]? else none).or (b.get? (numeral m)) := by
  induction values generalizing n b with
  | nil => simp [indexedFrom]
  | cons v rest ih =>
    change ((indexedFrom (n + 1) rest).foldl _ (b.insert (numeral n) v)).get? (numeral m) = _
    rw [ih, Bindings.get?_insert]
    simp only [numeral_inj]
    rcases Nat.lt_trichotomy n m with hlt | rfl | hgt
    · obtain ⟨k, rfl⟩ := Nat.exists_eq_add_of_lt hlt
      rw [if_pos (by omega), if_neg (by omega), if_pos (by omega),
        show n + k + 1 - n = k + 1 by omega, show n + k + 1 - (n + 1) = k by omega,
        List.getElem?_cons_succ]
    · rw [if_neg (Nat.not_succ_le_self n), if_pos rfl, if_pos (Nat.le_refl n), Nat.sub_self]
      rfl
    · rw [if_neg (by omega), if_neg (Nat.ne_of_gt hgt), if_neg (Nat.not_le.mpr hgt)]

theorem get?_foldl_indexedFrom_of_ne {key : String} (h : ∀ n, key ≠ numeral n) (n : Nat)
    (values : List String) (b : Scope) :
    ((indexedFrom n values).foldl (fun b e => b.insert e.1 e.2) b).get? key = b.get? key := by
  induction values generalizing n b with
  | nil => rfl
  | cons v rest ih =>
    change ((indexedFrom (n + 1) rest).foldl _ (b.insert (numeral n) v)).get? key = _
    rw [ih, Bindings.get?_insert, if_neg (h n).symm]

/-- **A list bound by number** is found under its numbers and under no other one. -/
theorem get?_indexed (values : List String) (n : Nat) :
    (indexed values).get? (numeral n) = values[n]? := by
  have hget := get?_foldl_indexedFrom 0 n values .empty
  rw [if_pos (Nat.zero_le n), Bindings.get?_empty, Option.or_none] at hget
  exact hget

/-- A scope binds numbers as given, and nothing else. -/
def BindsNumbers (b : Scope) (value? : Nat → Option String) : Prop :=
  ∀ key value, b.get? key = some value ↔ ∃ n, key = numeral n ∧ value? n = some value

theorem bindsNumbers_indexed (values : List String) :
    (indexed values).BindsNumbers (values[·]?) := by
  intro key value
  by_cases hkey : ∃ n, key = numeral n
  · obtain ⟨n, rfl⟩ := hkey
    simp only [get?_indexed, numeral_inj, exists_eq_left']
  · have hne : ∀ n, key ≠ numeral n := fun n heq => hkey ⟨n, heq⟩
    have hnone : (indexed values).get? key = none :=
      get?_foldl_indexedFrom_of_ne hne 0 values .empty
    rw [hnone]
    exact iff_of_false (fun h => by cases h) fun ⟨n, heq, _⟩ => hne n heq

end Scope

/-! ## The arguments of a script -/

namespace Scopes

variable {s : Scopes} {args : List String}

/-- The arguments by number: all of them under number zero, each without quotes at its ends under
its own, and empty texts up to number nine where there are fewer. -/
def numberedArg? (args : List String) : Nat → Option String
  | 0 => some (" ".intercalate args)
  | n + 1 =>
      match args[n]? with
      | some arg => some (String.ofList (stripQuotes arg.toList))
      | none => if n + 1 ≤ 9 then some "" else none

/-- A script has just these arguments: as a list, by number, and counted. -/
structure HasArgs (s : Scopes) (args : List String) : Prop where
  args_eq : s.args = args
  bindsNumbers : s.argVars.BindsNumbers (numberedArg? args)
  argcount : s.locals.get? "argcount" = some (Scope.numeral args.length)

theorem bindsNumbers_numbered (args : List String) :
    (numbered args).BindsNumbers (numberedArg? args) := by
  have hvalue (n : Nat) : (" ".intercalate args ::
      (args.map (fun a => String.ofList (stripQuotes a.toList)) ++
        List.replicate (minArgVars - args.length) ""))[n]? = numberedArg? args n := by
    cases n with
    | zero => rfl
    | succ n =>
      rw [List.getElem?_cons_succ, numberedArg?, List.getElem?_append, List.length_map,
        List.getElem?_map, List.getElem?_replicate, minArgVars]
      split
      · next hlt =>
        rw [List.getElem?_eq_getElem hlt]
        rfl
      · next hge =>
        rw [List.getElem?_eq_none (Nat.not_lt.mp hge)]
        exact if_congr (by omega) rfl rfl
  intro key value
  simp only [← hvalue]
  exact Scope.bindsNumbers_indexed _ key value

theorem hasArgs_setArgs (s : Scopes) (args : List String) : (s.setArgs args).HasArgs args where
  args_eq := rfl
  bindsNumbers := bindsNumbers_numbered args
  argcount := (Bindings.get?_insert ..).trans (if_pos rfl)

/-- New arguments replace the old ones altogether. -/
theorem setArgs_setArgs (s : Scopes) (args args' : List String) :
    (s.setArgs args).setArgs args' = s.setArgs args' := by
  rw [setArgs, setArgs, setArgs, Bindings.insert_insert]

theorem shiftArgs_setArgs (s : Scopes) (args : List String) :
    (s.setArgs args).shiftArgs = s.setArgs args.tail := by
  cases args with
  | nil => rfl
  | cons arg args => exact setArgs_setArgs s (arg :: args) args

/-- **Arguments that have been dropped leave nothing behind.**  However often the first argument is
dropped, everything is as if the script had been given only the rest. -/
theorem shiftArgs_iterate (s : Scopes) (args : List String) (k : Nat) :
    shiftArgs^[k] (s.setArgs args) = s.setArgs (args.drop k) ∧
      (shiftArgs^[k] (s.setArgs args)).HasArgs (args.drop k) := by
  have hshift : shiftArgs^[k] (s.setArgs args) = s.setArgs (args.drop k) := by
    induction k with
    | zero => rfl
    | succ k ih =>
      rw [Function.iterate_succ_apply', ih, shiftArgs_setArgs, List.tail_drop]
  rw [hshift]
  exact ⟨rfl, hasArgs_setArgs s (args.drop k)⟩

end Scopes

end StreamScript
