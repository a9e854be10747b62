import Mathlib.Algebra.Group.Nat.Defs
import StreamScript.Proofs.Words

/-!
# Numerals

A run of decimal digits is read as the number it stands for, however long it is
(`readDigits?_of_isDigit`).  As an integer of 64 bits it is read only when that
number fits; beyond, it is not read as another number but as none
(`readInt64?_of_isDigit`).
-/

namespace StreamScript

namespace Number

variable {digits : List Char}

theorem digitsFrom_eq (acc : Nat) (cs : List Char) :
    digitsFrom acc cs = Nat.ofDigitChars 10 cs acc := by
  induction cs generalizing acc with
  | nil => exact Nat.ofDigitChars_nil.symm
  | cons c cs ih =>
    rw [Nat.ofDigitChars_cons]
    exact ih (10 * acc + digitValue c)

theorem readDigits?_of_isDigit (hne : digits ≠ []) (h : ∀ c ∈ digits, c.isDigit = true) :
    readDigits? digits = some (Nat.ofDigitChars 10 digits 0) := by
  rw [readDigits?, List.isEmpty_eq_false_iff.mpr hne, List.all_eq_true.mpr h, ofDigits,
    digitsFrom_eq]
  rfl

theorem trim_of_isDigit (h : ∀ c ∈ digits, c.isDigit = true) : Text.trim digits = digits :=
  Text.trim_word fun c hc => Text.isBlank_of_isDigit (h c hc)

/-- Digits are read as an integer of 64 bits as far as one holds their value. -/
theorem readInt64?_of_isDigit (hne : digits ≠ []) (h : ∀ c ∈ digits, c.isDigit = true) :
    readInt64? digits =
      if Nat.ofDigitChars 10 digits 0 < 2 ^ 63 then
        some (Int64.ofInt (Nat.ofDigitChars 10 digits 0))
      else none := by
  have hsign (d : Char) (hd : d.isDigit = false) (cs : List Char) : digits ≠ d :: cs := by
    rintro rfl
    exact Bool.false_ne_true (hd.symm.trans (h d (List.mem_cons_self ..)))
  have hfits : Fits (Nat.ofDigitChars 10 digits 0 : Int) ↔
      Nat.ofDigitChars 10 digits 0 < 2 ^ 63 := by
    rw [Fits]
    omega
  unfold readInt64?
  split
  · next heq => exact absurd rfl (hsign '-' (by decide) _)
  · next heq => exact absurd rfl (hsign '+' (by decide) _)
  · rw [readDigits?_of_isDigit hne h]
    change ((some (Nat.ofDigitChars 10 digits 0 : Int)).filter fun n => decide (Fits n)).map
      Int64.ofInt = _
    rw [Option.filter_some, decide_eq_decide.mpr hfits]
    by_cases hlt : Nat.ofDigitChars 10 digits 0 < 2 ^ 63
    · rw [decide_eq_true hlt, if_pos rfl, if_pos hlt, Option.map_some]
    · rw [decide_eq_false hlt, if_neg Bool.false_ne_true, if_neg hlt, Option.map_none]

/-! ## Numbers that have been written -/

theorem isDigit_of_mem_natText {n : Nat} {c : Char} (h : c ∈ natText n) : c.isDigit = true :=
  Nat.isDigit_of_mem_toDigits (by decide) (by decide) h

theorem natText_ne_nil (n : Nat) : natText n ≠ [] :=
  Nat.toDigits_ne_nil

theorem ofDigitChars_natText (n : Nat) : Nat.ofDigitChars 10 (natText n) 0 = n :=
  Nat.ofDigitChars_ten_toDigits

/-- The decimal form of a number of 64 bits that is not negative is read as that number. -/
theorem readInt64?_natText {n : Int64} (h : 0 ≤ n.toInt) :
    readInt64? (natText n.toInt.natAbs) = some n := by
  have hlt : n.toInt.natAbs < 2 ^ 63 := by
    have := n.toInt_lt
    omega
  rw [readInt64?_of_isDigit (natText_ne_nil _) fun _ => isDigit_of_mem_natText,
    ofDigitChars_natText, if_pos hlt, Int.natAbs_of_nonneg h, Int64.ofInt_toInt]

end Number

end StreamScript
