import Mathlib.Algebra.Group.Nat.Defs
import Mathlib.Order.Nat
import StreamScript.Number.Binary64

/-!
# The double nearest to a whole number

A double has 53 binary digits.  Whole numbers with more digits than that lie between
doubles, which are `spacing` apart there, and the nearest double is found by rounding to
a multiple of that distance, halves to the even multiple.  This is said here in whole
numbers alone (`nearest`), without a word about doubles.

Rounding keeps the order (`nearest_mono`), but numbers that differ may be rounded to the
same one.  It changes nothing up to `2 ^ 53` (`nearest_of_natAbs_le`).
-/

namespace StreamScript

namespace Number

variable {a b c n num den : Nat}

/-! ## Rounding a quotient -/

theorem roundToEven_le_succ (num den : Nat) : roundToEven num den ≤ num / den + 1 := by
  unfold roundToEven
  dsimp only
  repeat' split
  all_goals omega

theorem div_le_roundToEven (num den : Nat) : num / den ≤ roundToEven num den := by
  unfold roundToEven
  dsimp only
  repeat' split
  all_goals omega

/-- A quotient is not rounded above a whole number that it does not exceed. -/
theorem roundToEven_le (hden : 0 < den) (h : num ≤ c * den) : roundToEven num den ≤ c := by
  rcases Nat.lt_or_ge (num / den) c with hlt | hge
  · exact (roundToEven_le_succ num den).trans hlt
  · have hnum : num = c * den := le_antisymm h ((Nat.le_div_iff_mul_le hden).mp hge)
    have hdiv : num / den = c := by rw [hnum, Nat.mul_div_cancel _ hden]
    have hmod : num % den = 0 := by rw [hnum, Nat.mul_mod_left]
    rw [roundToEven, hdiv, hmod]
    exact (if_pos hden).le

/-- A quotient is not rounded below a whole number that does not exceed it. -/
theorem le_roundToEven (hden : 0 < den) (h : c * den ≤ num) : c ≤ roundToEven num den :=
  ((Nat.le_div_iff_mul_le hden).mpr h).trans (div_le_roundToEven num den)

theorem roundToEven_mono (den : Nat) (h : a ≤ b) : roundToEven a den ≤ roundToEven b den := by
  rcases (Nat.div_le_div_right (c := den) h).lt_or_eq with hlt | heq
  · calc roundToEven a den ≤ a / den + 1 := roundToEven_le_succ a den
      _ ≤ b / den := hlt
      _ ≤ roundToEven b den := div_le_roundToEven b den
  · have hmod : a % den ≤ b % den := by
      have ha := Nat.div_add_mod a den
      have hb := Nat.div_add_mod b den
      rw [heq] at ha
      omega
    unfold roundToEven
    dsimp only
    rw [heq]
    repeat' split
    all_goals omega

/-- Only the quotient matters to what it is rounded to. -/
theorem roundToEven_mul_right (hc : 0 < c) (num den : Nat) :
    roundToEven (num * c) (den * c) = roundToEven num den := by
  have hbelow : 2 * (num % den * c) < den * c ↔ 2 * (num % den) < den := by
    rw [← Nat.mul_assoc]
    exact Nat.mul_lt_mul_right hc
  have habove : den * c < 2 * (num % den * c) ↔ den < 2 * (num % den) := by
    rw [← Nat.mul_assoc]
    exact Nat.mul_lt_mul_right hc
  unfold roundToEven
  dsimp only
  rw [Nat.mul_div_mul_right _ _ hc, Nat.mul_mod_mul_right]
  simp only [hbelow, habove]

theorem roundToEven_one (n : Nat) : roundToEven n 1 = n :=
  le_antisymm (roundToEven_le Nat.one_pos (Nat.mul_one n).ge)
    (le_roundToEven Nat.one_pos (Nat.mul_one n).le)

/-! ## Rounding to 53 digits -/

/-- How far apart doubles of the size of a whole number are, where that is at least one. -/
def spacing (n : Nat) : Nat :=
  2 ^ (n.log2 - 52)

/-- The multiple of the spacing that is nearest to a number, of two the even one. -/
def nearestNat (n : Nat) : Nat :=
  roundToEven n (spacing n) * spacing n

/-- The whole number that the double nearest to a whole number is. -/
def nearest (n : Int) : Int :=
  n.sign * nearestNat n.natAbs

theorem spacing_pos (n : Nat) : 0 < spacing n :=
  Nat.two_pow_pos _

theorem spacing_of_lt (h : n < 2 ^ 53) : spacing n = 1 := by
  have hlog : n.log2 < 53 := by
    rcases Nat.eq_zero_or_pos n with rfl | hpos
    · decide
    · exact (Nat.log2_lt hpos.ne').mpr h
  rw [spacing, Nat.sub_eq_zero_of_le (by omega), Nat.pow_zero]

theorem nearestNat_of_lt (h : n < 2 ^ 53) : nearestNat n = n := by
  rw [nearestNat, spacing_of_lt h, roundToEven_one, Nat.mul_one]

/-- A power of two above which a number lies is a multiple of the spacing there. -/
theorem exists_mul_spacing {k : Nat} (h : n.log2 ≤ k) : ∃ c, 2 ^ k = c * spacing n :=
  ⟨2 ^ (k - (n.log2 - 52)), by rw [spacing, ← Nat.pow_add]; congr 1; omega⟩

/-- Rounding leaves a number between the powers of two that it lies between. -/
theorem nearestNat_mem (hn : n ≠ 0) :
    2 ^ n.log2 ≤ nearestNat n ∧ nearestNat n ≤ 2 ^ (n.log2 + 1) := by
  obtain ⟨low, hlow⟩ := exists_mul_spacing (Nat.le_refl n.log2)
  obtain ⟨high, hhigh⟩ := exists_mul_spacing (Nat.le_succ n.log2)
  have hle : low * spacing n ≤ n := hlow ▸ Nat.log2_self_le hn
  have hge : n ≤ high * spacing n := hhigh ▸ Nat.lt_log2_self.le
  rw [hlow, hhigh, nearestNat]
  exact ⟨Nat.mul_le_mul_right _ (le_roundToEven (spacing_pos n) hle),
    Nat.mul_le_mul_right _ (roundToEven_le (spacing_pos n) hge)⟩

theorem nearestNat_mono (h : a ≤ b) : nearestNat a ≤ nearestNat b := by
  rcases Nat.eq_zero_or_pos a with rfl | ha
  · exact Nat.zero_le _
  have hb : b ≠ 0 := (ha.trans_le h).ne'
  have hlog : a.log2 ≤ b.log2 := (Nat.le_log2 hb).mpr ((Nat.log2_self_le ha.ne').trans h)
  rcases hlog.lt_or_eq with hlt | heq
  · calc nearestNat a ≤ 2 ^ (a.log2 + 1) := (nearestNat_mem ha.ne').2
      _ ≤ 2 ^ b.log2 := Nat.pow_le_pow_right Nat.two_pos hlt
      _ ≤ nearestNat b := (nearestNat_mem hb).1
  · have hspacing : spacing a = spacing b := by rw [spacing, heq, spacing]
    rw [nearestNat, nearestNat, hspacing]
    exact Nat.mul_le_mul_right _ (roundToEven_mono _ h)

theorem nearest_natCast (n : Nat) : nearest n = nearestNat n := by
  rcases Nat.eq_zero_or_pos n with rfl | hn
  · rfl
  · rw [nearest, Int.sign_eq_one_of_pos (Int.natCast_pos.mpr hn), Int.one_mul, Int.natAbs_natCast]

theorem nearest_neg (n : Int) : nearest (-n) = -nearest n := by
  rw [nearest, Int.sign_neg, Int.natAbs_neg, Int.neg_mul, nearest]

/-- **Rounding keeps the order.** -/
theorem nearest_mono {a b : Int} (h : a ≤ b) : nearest a ≤ nearest b := by
  obtain ⟨m, rfl | rfl⟩ := a.eq_nat_or_neg
  · obtain ⟨n, rfl⟩ := Int.eq_ofNat_of_zero_le (Int.le_trans (Int.natCast_nonneg m) h)
    rw [nearest_natCast, nearest_natCast]
    exact Int.ofNat_le.mpr (nearestNat_mono (Int.ofNat_le.mp h))
  · obtain ⟨n, rfl | rfl⟩ := b.eq_nat_or_neg
    · rw [nearest_neg, nearest_natCast, nearest_natCast]
      omega
    · have hle := nearestNat_mono (a := n) (b := m) (by omega)
      rw [nearest_neg, nearest_neg, nearest_natCast, nearest_natCast]
      omega

/-- Numbers of up to 53 digits, and the first one beyond them, are doubles. -/
theorem nearest_of_natAbs_le {n : Int} (h : n.natAbs ≤ 2 ^ 53) : nearest n = n := by
  have hself : nearestNat n.natAbs = n.natAbs := by
    rcases h.lt_or_eq with hlt | heq
    · exact nearestNat_of_lt hlt
    · rw [heq]
      decide +kernel
  rw [nearest, hself, Int.sign_mul_natAbs]

end Number

end StreamScript
