import StreamScript.Number.Binary64
import StreamScript.Proofs.Number.Nearest

/-!
# Doubles that are whole numbers

The double of a whole number is defined by what happens to its digits: they are shifted
out one by one until 53 are left, two bits keep what has been lost, and the result is
packed into 64 bits.  Here it is shown to be the double nearest to the number, in the
sense of `nearest`, and two such doubles to compare as the whole numbers that they are.

`Holds` says which whole number an unpacked double in normal form is, and `IsDouble`
says it of a double.  Packing keeps a double in normal form (`Holds.unpack_pack`), and in
normal form the exponent decides before the digits do (`Holds.compare_eq`).
-/

namespace StreamScript

namespace Number

open Float.Model Float.Model.UnpackedFloat

variable {s : Sign} {m n k : Nat} {e : Int} {u v : UnpackedFloat} {a b : Int} {x y : Float}

/-! ## Shifting digits out -/

/-- The digits of a number of which some have been shifted out, and whether what has been lost is at
least a half, and whether it is something other than nothing or a half. -/
def shiftedOut (m k : Nat) : ExtendedMantissa where
  mantissa := m / 2 ^ k
  roundBit := decide (2 ^ k ≤ 2 * (m % 2 ^ k))
  stickyBit := decide (2 * (m % 2 ^ k) ≠ 0 ∧ 2 * (m % 2 ^ k) ≠ 2 ^ k)

theorem shiftRightOne_shiftedOut (m k : Nat) :
    (shiftedOut m k).shiftRightOne = shiftedOut m (k + 1) := by
  have hlost : m % 2 ^ (k + 1) = m % 2 ^ k + 2 ^ k * (m / 2 ^ k % 2) := by
    rw [Nat.pow_succ, Nat.mod_mul]
  have hlt : m % 2 ^ k < 2 ^ k := Nat.mod_lt _ (Nat.two_pow_pos k)
  have hdouble : 2 ^ (k + 1) = 2 * 2 ^ k := Nat.pow_succ'
  unfold shiftedOut ExtendedMantissa.shiftRightOne
  dsimp only
  rw [ExtendedMantissa.mk.injEq]
  refine ⟨by rw [Nat.div_div_eq_div_mul, Nat.pow_succ], ?_, ?_⟩
  · rw [hlost, hdouble, Bool.eq_iff_iff, bne_iff_ne, decide_eq_true_iff]
    rcases Nat.mod_two_eq_zero_or_one (m / 2 ^ k) with hbit | hbit <;> rw [hbit] <;> omega
  · rw [hlost, hdouble, Bool.eq_iff_iff, Bool.or_eq_true, decide_eq_true_iff, decide_eq_true_iff,
      decide_eq_true_iff]
    rcases Nat.mod_two_eq_zero_or_one (m / 2 ^ k) with hbit | hbit <;> rw [hbit] <;> omega

theorem repeat_shiftRightOne (m k : Nat) :
    Nat.repeat ExtendedMantissa.shiftRightOne k ⟨m, false, false⟩ = shiftedOut m k := by
  induction k with
  | zero => simp [Nat.repeat, shiftedOut, Nat.mod_one]
  | succ k ih => rw [Nat.repeat, ih, shiftRightOne_shiftedOut]

/-- The two bits are enough to round a quotient. -/
theorem roundedMantissa_shiftedOut (m k : Nat) :
    (shiftedOut m k).roundedMantissa = roundToEven m (2 ^ k) := by
  unfold shiftedOut ExtendedMantissa.roundedMantissa roundToEven
  dsimp only
  have hpos : 0 < 2 ^ k := Nat.two_pow_pos k
  generalize 2 ^ k = d at hpos
  generalize m / d = q
  generalize m % d = r
  rcases Nat.lt_trichotomy (2 * r) d with hlt | heq | hgt
  · rw [decide_eq_false (Nat.not_le.mpr hlt), if_pos hlt]
    by_cases hr : 2 * r = 0
    · rw [decide_eq_false fun h => h.1 hr]
      rfl
    · rw [decide_eq_true ⟨hr, hlt.ne⟩]
      rfl
  · rw [decide_eq_true heq.ge, decide_eq_false fun h => h.2 heq, if_neg heq.not_lt,
      if_neg heq.not_gt]
    change q + q % 2 = _
    split <;> omega
  · rw [decide_eq_true hgt.le, decide_eq_true ⟨by omega, hgt.ne'⟩, if_neg hgt.not_gt, if_pos hgt]
    rfl

/-! ## Rounding to 53 digits -/

/-- The last of 53 digits, if the exponent of a double can be as small as that. -/
theorem targetExponent_binary64 (t : Int) :
    Format.binary64.targetExponent t = max (t - 53) (-1074) :=
  rfl

theorem shiftToTargetExponent_eq (hlog : 52 ≤ m.log2) (he : -1074 ≤ e + (m.log2 - 52 : Nat)) :
    shiftToTargetExponent .binary64 m e .exact =
      (shiftedOut m (m.log2 - 52), e + (m.log2 - 52 : Nat)) := by
  have htarget : Format.binary64.targetExponent (totalExponent m e) = e + (m.log2 - 52 : Nat) := by
    rw [targetExponent_binary64, totalExponent]
    omega
  have hamount : (e + (m.log2 - 52 : Nat) - e).toNat = m.log2 - 52 := by omega
  rw [shiftToTargetExponent, htarget, shiftToExponent, hamount, ← repeat_shiftRightOne]
  rfl

theorem log2_eq (hlow : 2 ^ k ≤ m) (hhigh : m < 2 ^ (k + 1)) : m.log2 = k := by
  have hne : m ≠ 0 := (Nat.two_pow_pos k |>.trans_le hlow).ne'
  exact le_antisymm (Nat.lt_succ_iff.mp ((Nat.log2_lt hne).mpr hhigh)) ((Nat.le_log2 hne).mpr hlow)

theorem log2_mul_two_pow (hm : m ≠ 0) (k : Nat) : (m * 2 ^ k).log2 = m.log2 + k := by
  refine log2_eq ?_ ?_
  · rw [Nat.pow_add]
    exact Nat.mul_le_mul_right _ (Nat.log2_self_le hm)
  · rw [Nat.add_right_comm, Nat.pow_add]
    exact Nat.mul_lt_mul_of_pos_right Nat.lt_log2_self (Nat.two_pow_pos k)

/-- A number is shifted, rounded, and shifted once more. -/
theorem roundWithAccuracy_of_shift {t t' : Int} {b b' : ExtendedMantissa} (s : Sign)
    (hfirst : shiftToTargetExponent .binary64 m e .exact = (b, t))
    (hsecond : shiftToTargetExponent .binary64 b.roundedMantissa t .exact = (b', t'))
    (hd : 0 < b'.mantissa) :
    roundWithAccuracy .binary64 s m e .exact = .finite s b'.mantissa t' hd := by
  have hshifts : shiftToTargetExponent .binary64
      (shiftToTargetExponent .binary64 m e .exact).1.roundedMantissa
      (shiftToTargetExponent .binary64 m e .exact).2 .exact = (b', t') := by
    rw [hfirst, hsecond]
  have hdigits := congrArg (fun shifted => shifted.1.mantissa) hshifts
  refine (dif_neg fun hzero => hd.ne' (hdigits.symm.trans hzero)).trans ?_
  rw [UnpackedFloat.finite.injEq]
  exact ⟨rfl, hdigits, congrArg Prod.snd hshifts⟩

/-- Digits that are at least 53 are rounded to 53 of them; what does not fit then is a power of
two. -/
theorem roundWithAccuracy_eq (s : Sign) (hlog : 52 ≤ m.log2)
    (he : -1074 ≤ e + (m.log2 - 52 : Nat)) :
    ∃ (d : Nat) (c : Nat) (hd : 0 < d),
      roundWithAccuracy .binary64 s m e .exact = .finite s d (e + (m.log2 - 52 : Nat) + c) hd ∧
        2 ^ 52 ≤ d ∧ d < 2 ^ 53 ∧ c ≤ 1 ∧ d * 2 ^ c = roundToEven m (2 ^ (m.log2 - 52)) := by
  have hne : m ≠ 0 := by
    rintro rfl
    exact absurd hlog (by decide)
  have hpow : 2 ^ 52 * 2 ^ (m.log2 - 52) = 2 ^ m.log2 := by
    rw [← Nat.pow_add]
    congr 1
    omega
  have hlow : 2 ^ 52 ≤ roundToEven m (2 ^ (m.log2 - 52)) :=
    le_roundToEven (Nat.two_pow_pos _) (hpow ▸ Nat.log2_self_le hne)
  have hhigh : roundToEven m (2 ^ (m.log2 - 52)) ≤ 2 ^ 53 := by
    refine roundToEven_le (Nat.two_pow_pos _) ?_
    have hdouble : 2 ^ 53 * 2 ^ (m.log2 - 52) = 2 ^ (m.log2 + 1) := by
      rw [Nat.pow_succ 2 m.log2, ← hpow]
      omega
    exact hdouble ▸ Nat.lt_log2_self.le
  have hround {d c : Nat} {b : ExtendedMantissa} (hb : b.mantissa = d) (hd : 0 < d)
      (hsecond : shiftToTargetExponent .binary64 (roundToEven m (2 ^ (m.log2 - 52)))
        (e + (m.log2 - 52 : Nat)) .exact = (b, e + (m.log2 - 52 : Nat) + c)) :
      roundWithAccuracy .binary64 s m e .exact = .finite s d (e + (m.log2 - 52 : Nat) + c) hd := by
    subst hb
    refine roundWithAccuracy_of_shift s (shiftToTargetExponent_eq hlog he) ?_ hd
    rw [roundedMantissa_shiftedOut, hsecond]
  generalize roundToEven m (2 ^ (m.log2 - 52)) = r at hlow hhigh hround
  generalize e + (m.log2 - 52 : Nat) = t at he hround
  rcases hhigh.lt_or_eq with hlt | rfl
  · have hr : r.log2 = 52 := log2_eq hlow hlt
    have hout : shiftedOut r 0 = ⟨r, false, false⟩ := (repeat_shiftRightOne r 0).symm
    have hpos : 0 < r := (Nat.two_pow_pos 52).trans_le hlow
    refine ⟨r, 0, hpos, hround (b := ⟨r, false, false⟩) rfl hpos ?_, hlow, hlt, Nat.zero_le 1,
      Nat.mul_one r⟩
    rw [shiftToTargetExponent_eq hr.ge (by rw [hr]; omega), hr, Nat.sub_self, hout]
  · have hr : (2 ^ 53 : Nat).log2 = 53 := Nat.log2_two_pow
    refine ⟨2 ^ 52, 1, by decide, hround (b := shiftedOut (2 ^ 53) 1) (by decide) (by decide) ?_,
      le_rfl, by decide, le_rfl, by decide⟩
    rw [shiftToTargetExponent_eq (by rw [hr]; decide) (by rw [hr]; omega), hr]

/-! ## Doubles in normal form -/

/-- An unpacked double in normal form is a whole number. -/
inductive Holds : UnpackedFloat → Int → Prop where
  | zero (s : Sign) : Holds (.zero s) 0
  /-- The double has 53 digits, the last of them is worth `2 ^ e`, and the number they make up is
  not beyond what a double can hold. -/
  | finite (s : Sign) {m n : Nat} {e : Int} (hm : 0 < m) (hlow : 2 ^ 52 ≤ m) (hhigh : m < 2 ^ 53)
      (he : -52 ≤ e) (hvalue : m * 2 ^ (e + 52).toNat = n * 2 ^ 52) (hn : n.log2 < 1024) :
      Holds (.finite s m e hm) (s.apply n)

theorem pos_of_digits (hlow : 2 ^ 52 ≤ m) (hvalue : m * 2 ^ k = n * 2 ^ 52) : 0 < n := by
  rcases Nat.eq_zero_or_pos n with rfl | hn
  · have hpos : 0 < m * 2 ^ k := Nat.mul_pos (by omega) (Nat.two_pow_pos k)
    omega
  · exact hn

/-- The first digit is worth as much as the number allows. -/
theorem add_eq_log2 (hlow : 2 ^ 52 ≤ m) (hhigh : m < 2 ^ 53) (hvalue : m * 2 ^ k = n * 2 ^ 52) :
    k = n.log2 := by
  have hlog := congrArg Nat.log2 hvalue
  rw [log2_mul_two_pow (by omega), log2_mul_two_pow (pos_of_digits hlow hvalue).ne',
    log2_eq hlow hhigh] at hlog
  omega

/-- Rounding leaves a double in normal form. -/
theorem holds_roundWithAccuracy (s : Sign) (hlog : 52 ≤ m.log2)
    (he : -52 ≤ e + (m.log2 - 52 : Nat))
    (hvalue : roundToEven m (2 ^ (m.log2 - 52)) * 2 ^ (e + (m.log2 - 52 : Nat) + 52).toNat =
      n * 2 ^ 52) (hn : n.log2 < 1024) :
    Holds (roundWithAccuracy .binary64 s m e .exact) (s.apply n) := by
  obtain ⟨d, c, hd, hround, hlow, hhigh, hc, hdc⟩ :=
    roundWithAccuracy_eq (e := e) s hlog (by omega)
  rw [hround]
  refine .finite s hd hlow hhigh (by omega) ?_ hn
  have hexp : (e + (m.log2 - 52 : Nat) + c + 52).toNat =
      c + (e + (m.log2 - 52 : Nat) + 52).toNat := by omega
  rw [hexp, Nat.pow_add, ← Nat.mul_assoc, hdc, hvalue]

theorem unpackSign_packComponents (s : Sign) (exponent : BitVec 11) (mantissa : BitVec 52) :
    Sign.ofBitVec (unpackSign (packComponents .binary64 s exponent mantissa)) = s := by
  change Sign.ofBitVec ((s.toBitVec ++ exponent ++ mantissa).extractLsb' 63 1) = s
  rw [BitVec.extractLsb'_append_eq_of_le (by decide),
    BitVec.extractLsb'_append_eq_of_le (by decide)]
  cases s <;> rfl

/-- A double in normal form is packed without its first digit. -/
theorem pack_finite (s : Sign) (hm : 0 < m) (hlog : m.log2 = 52) (he : e + 1075 < 2047) :
    UnpackedFloat.pack .binary64 (.finite s m e hm) =
      packComponents .binary64 s (BitVec.ofNat 11 (e + 1075).toNat) (BitVec.ofNat 52 m) := by
  have hbias : (e + (1023 : Nat) + (52 : Nat)).toNat = (e + 1075).toNat := by omega
  change (if 2 ^ 11 ≤ (e + (1023 : Nat) + (52 : Nat)).toNat + 1 then _
    else if m.log2 + 1 = 53 then
      packComponents .binary64 s (BitVec.ofNat 11 (e + (1023 : Nat) + (52 : Nat)).toNat) _
    else _) = _
  rw [hbias, if_neg (by omega), if_pos (by omega)]

/-- Unless all bits of the exponent are set or none is, the first digit is put back. -/
theorem unpack_of_exponent {b : BitVec 64} (hones : @unpackExponent .binary64 b ≠ -1#11)
    (hzero : @unpackExponent .binary64 b ≠ 0#11) :
    ∃ hm, UnpackedFloat.unpack .binary64 b =
      .finite (Sign.ofBitVec (@unpackSign .binary64 b))
        (1#1 ++ @unpackMantissa .binary64 b).toNat
        ((@unpackExponent .binary64 b).toNat - 1075) hm :=
  ⟨_, (if_neg hones).trans (if_neg hzero)⟩

/-- A double whose exponent has all its bits set is no number. -/
theorem unpack_of_exponent_eq_ones {b : BitVec 64} (h : @unpackExponent .binary64 b = -1#11) :
    UnpackedFloat.unpack .binary64 b =
      if @unpackMantissa .binary64 b = 0#52 then
        .infinity (Sign.ofBitVec (@unpackSign .binary64 b))
      else .notANumber :=
  if_pos h

/-- A double in normal form is not changed by being packed. -/
theorem Holds.unpack_pack (h : Holds u a) :
    UnpackedFloat.unpack .binary64 (UnpackedFloat.pack .binary64 u) = u := by
  cases h with
  | zero s => cases s <;> rfl
  | @finite s m n e hm hlow hhigh he hvalue hn =>
    have he' := add_eq_log2 hlow hhigh hvalue
    have hexponent : (BitVec.ofNat 11 (e + 1075).toNat).toNat = (e + 1075).toNat := by
      rw [BitVec.toNat_ofNat, Nat.mod_eq_of_lt (by omega)]
    have hones : BitVec.ofNat 11 (e + 1075).toNat ≠ -1#11 := by
      intro heq
      have hnat := congrArg BitVec.toNat heq
      rw [hexponent] at hnat
      change _ = 2047 at hnat
      omega
    have hzero : BitVec.ofNat 11 (e + 1075).toNat ≠ 0#11 := by
      intro heq
      have hnat := congrArg BitVec.toNat heq
      rw [hexponent] at hnat
      change _ = 0 at hnat
      omega
    have hmantissa : (1#1 ++ BitVec.ofNat 52 m).toNat = m := by
      rw [BitVec.toNat_append, ← Nat.shiftLeft_add_eq_or_of_lt (BitVec.ofNat 52 m).isLt,
        BitVec.toNat_ofNat, Nat.shiftLeft_eq]
      change 1 * 2 ^ 52 + m % 2 ^ 52 = m
      omega
    rw [pack_finite s hm (log2_eq hlow hhigh) (by omega)]
    obtain ⟨_, hunpack⟩ := unpack_of_exponent
      (b := packComponents .binary64 s (BitVec.ofNat 11 (e + 1075).toNat) (BitVec.ofNat 52 m))
      (unpackExponent_packComponents.trans_ne hones) (unpackExponent_packComponents.trans_ne hzero)
    rw [hunpack, UnpackedFloat.finite.injEq, unpackSign_packComponents,
      unpackExponent_packComponents, unpackMantissa_packComponents, hexponent]
    exact ⟨rfl, hmantissa, by omega⟩

/-- In normal form the exponent decides before the digits do. -/
theorem compare_then_compare {m' n' : Nat} {e' : Int} (hlow : 2 ^ 52 ≤ m) (hhigh : m < 2 ^ 53)
    (hlow' : 2 ^ 52 ≤ m') (hhigh' : m' < 2 ^ 53) (he : -52 ≤ e) (he' : -52 ≤ e')
    (hvalue : m * 2 ^ (e + 52).toNat = n * 2 ^ 52)
    (hvalue' : m' * 2 ^ (e' + 52).toNat = n' * 2 ^ 52) :
    (compare e e').then (compare m m') = compare (n : Int) n' := by
  have hless {m m' n n' : Nat} {e e' : Int} (hhigh : m < 2 ^ 53) (hlow' : 2 ^ 52 ≤ m')
      (he : -52 ≤ e) (hvalue : m * 2 ^ (e + 52).toNat = n * 2 ^ 52)
      (hvalue' : m' * 2 ^ (e' + 52).toNat = n' * 2 ^ 52) (hlt : e < e') : n < n' := by
    refine Nat.lt_of_mul_lt_mul_right (a := 2 ^ 52) ?_
    calc n * 2 ^ 52 = m * 2 ^ (e + 52).toNat := hvalue.symm
      _ < 2 ^ 53 * 2 ^ (e + 52).toNat := Nat.mul_lt_mul_of_pos_right hhigh (Nat.two_pow_pos _)
      _ = 2 ^ 52 * 2 ^ ((e + 52).toNat + 1) := by rw [Nat.pow_succ]; omega
      _ ≤ 2 ^ 52 * 2 ^ (e' + 52).toNat :=
        Nat.mul_le_mul_left _ (Nat.pow_le_pow_right Nat.two_pos (by omega))
      _ ≤ m' * 2 ^ (e' + 52).toNat := Nat.mul_le_mul_right _ hlow'
      _ = n' * 2 ^ 52 := hvalue'
  rcases Int.lt_trichotomy e e' with hlt | rfl | hgt
  · have hn := hless hhigh hlow' he hvalue hvalue' hlt
    rw [Int.compare_eq_lt.mpr hlt, Int.compare_eq_lt.mpr (Int.ofNat_lt.mpr hn)]
    rfl
  · have hscale {m m' n n' : Nat} (hvalue : m * 2 ^ (e + 52).toNat = n * 2 ^ 52)
        (hvalue' : m' * 2 ^ (e + 52).toNat = n' * 2 ^ 52) (hlt : m < m') : n < n' := by
      have hscaled := Nat.mul_lt_mul_of_pos_right hlt (Nat.two_pow_pos (e + 52).toNat)
      rw [hvalue, hvalue'] at hscaled
      exact Nat.lt_of_mul_lt_mul_right hscaled
    rw [Int.compare_eq_eq.mpr rfl]
    change compare m m' = _
    rcases Nat.lt_trichotomy m m' with hlt | rfl | hgt
    · rw [Nat.compare_eq_lt.mpr hlt,
        Int.compare_eq_lt.mpr (Int.ofNat_lt.mpr (hscale hvalue hvalue' hlt))]
    · have hn : n = n' := Nat.eq_of_mul_eq_mul_right (by decide) (hvalue.symm.trans hvalue')
      rw [Nat.compare_eq_eq.mpr rfl, Int.compare_eq_eq.mpr (congrArg _ hn)]
    · rw [Nat.compare_eq_gt.mpr hgt,
        Int.compare_eq_gt.mpr (Int.ofNat_lt.mpr (hscale hvalue' hvalue hgt))]
  · have hn := hless hhigh' hlow he' hvalue' hvalue hgt
    rw [Int.compare_eq_gt.mpr hgt, Int.compare_eq_gt.mpr (Int.ofNat_lt.mpr hn)]
    rfl

theorem compare_neg (a b : Int) : compare (-a) (-b) = (compare a b).swap := by
  rw [Int.compare_swap]
  rcases Int.lt_trichotomy b a with hlt | rfl | hgt
  · rw [Int.compare_eq_lt.mpr hlt, Int.compare_eq_lt.mpr (Int.neg_lt_neg hlt)]
  · rw [Int.compare_eq_eq.mpr rfl, Int.compare_eq_eq.mpr rfl]
  · rw [Int.compare_eq_gt.mpr hgt, Int.compare_eq_gt.mpr (Int.neg_lt_neg hgt)]

/-- **Doubles in normal form compare as the whole numbers that they are.** -/
theorem Holds.compare_eq (h : Holds u a) (h' : Holds v b) : u.compare v = some (compare a b) := by
  have hless {c d : Int} (hlt : c < d) : some Ordering.lt = some (compare c d) :=
    congrArg some (Int.compare_eq_lt.mpr hlt).symm
  have hgreater {c d : Int} (hlt : d < c) : some Ordering.gt = some (compare c d) :=
    congrArg some (Int.compare_eq_gt.mpr hlt).symm
  cases h with
  | zero s =>
    cases h' with
    | zero s' => rfl
    | @finite s' m' n' e' _ hlow' _ _ hvalue' =>
      have hn' : (0 : Int) < n' := Int.natCast_pos.mpr (pos_of_digits hlow' hvalue')
      cases s' with
      | negative => exact hgreater (Int.neg_neg_of_pos hn')
      | positive => exact hless hn'
  | @finite s m n e _ hlow hhigh he hvalue =>
    have hn : (0 : Int) < n := Int.natCast_pos.mpr (pos_of_digits hlow hvalue)
    cases h' with
    | zero s' =>
      cases s with
      | negative => exact hless (Int.neg_neg_of_pos hn)
      | positive => exact hgreater hn
    | @finite s' m' n' e' _ hlow' hhigh' he' hvalue' =>
      have hn' : (0 : Int) < n' := Int.natCast_pos.mpr (pos_of_digits hlow' hvalue')
      have hsame := compare_then_compare hlow hhigh hlow' hhigh' he he' hvalue hvalue'
      cases s with
      | negative =>
        cases s' with
        | negative =>
          exact congrArg some ((congrArg Ordering.swap hsame).trans (compare_neg n n').symm)
        | positive => exact hless (Int.lt_trans (Int.neg_neg_of_pos hn) hn')
      | positive =>
        cases s' with
        | negative => exact hgreater (Int.lt_trans (Int.neg_neg_of_pos hn') hn)
        | positive => exact congrArg some hsame

/-! ## Doubles of whole numbers -/

/-- A double is a whole number, in normal form. -/
def IsDouble (x : Float) (a : Int) : Prop :=
  Holds x.toModel.unpack a

theorem IsDouble.of_holds (h : Holds u a) : IsDouble (.ofModel (.pack u)) a := by
  have hunpack : (Float.Model.pack u).unpack = u := h.unpack_pack
  rw [IsDouble, hunpack]
  exact h

theorem IsDouble.neg (h : IsDouble x a) : IsDouble x.neg (-a) := by
  refine IsDouble.of_holds (u := x.toModel.unpack.neg) ?_
  rw [IsDouble] at h
  generalize x.toModel.unpack = u at h
  cases h with
  | zero s => exact .zero _
  | @finite s m n e hm hlow hhigh he hvalue hn =>
    have hsign : -s.apply n = (-s).apply n := by
      cases s with
      | negative => exact Int.neg_neg n
      | positive => rfl
    rw [hsign]
    exact .finite _ hm hlow hhigh he hvalue hn

theorem mul_finite {s s' : Sign} {m' : Nat} {e' : Int} (hm : 0 < m) (hm' : 0 < m') :
    UnpackedFloat.mul .binary64 (.finite s m e hm) (.finite s' m' e' hm') =
      roundWithAccuracy .binary64 (s * s') (m * m') (e + e') .exact :=
  rfl

/-- Multiplied by one, a double is what it was. -/
theorem Holds.mul_one (h : Holds u a) (hm : 0 < 2 ^ 52) :
    Holds (UnpackedFloat.mul .binary64 u (.finite .positive (2 ^ 52) (-52) hm)) a := by
  cases h with
  | zero s => cases s <;> exact .zero _
  | @finite s m n e hm' hlow hhigh he hvalue hn =>
    have hsign : s * .positive = s := by cases s <;> rfl
    have hlog : (m * 2 ^ 52).log2 - 52 = 52 := by
      rw [log2_mul_two_pow (by omega), log2_eq hlow hhigh]
    have hround : roundToEven (m * 2 ^ 52) (2 ^ 52) = m := by
      rw [← Nat.one_mul (2 ^ 52), ← Nat.mul_assoc, Nat.mul_one,
        roundToEven_mul_right (by decide), roundToEven_one]
    rw [mul_finite, hsign]
    refine holds_roundWithAccuracy s (by omega) (by omega) ?_ hn
    rw [hlog, hround, ← hvalue]
    congr 2
    omega

/-- The digits of a small number are moved up until there are 53 of them. -/
theorem holds_ofNat_of_lt (hn : n < 2 ^ 53) : Holds (UnpackedFloat.ofNat .binary64 n) n := by
  rcases Nat.eq_zero_or_pos n with rfl | hpos
  · exact .zero _
  have hlog : n.log2 ≤ 52 := Nat.lt_succ_iff.mp ((Nat.log2_lt hpos.ne').mpr hn)
  have hshift : (0 - Format.binary64.targetExponent (totalExponent n 0)).toNat = 52 - n.log2 := by
    rw [targetExponent_binary64, totalExponent]
    omega
  have hdigits : (n * 2 ^ (52 - n.log2)).log2 = 52 := by
    rw [log2_mul_two_pow hpos.ne']
    omega
  have hcompare : compare (n : Int) 0 = .gt := Int.compare_eq_gt.mpr (Int.natCast_pos.mpr hpos)
  rw [UnpackedFloat.ofNat, UnpackedFloat.ofInt, UnpackedFloat.normalize, hcompare]
  change Holds (UnpackedFloat.round .binary64 .positive n 0) n
  rw [UnpackedFloat.round]
  dsimp only [decreaseExponent]
  rw [hshift, Nat.shiftLeft_eq]
  refine holds_roundWithAccuracy .positive hdigits.ge (by omega) ?_ (by omega)
  rw [hdigits, Nat.sub_self, Nat.pow_zero, roundToEven_one, Nat.mul_assoc, ← Nat.pow_add]
  congr 2
  omega

theorem ofScientific_eq (hn : n ≠ 0) : UnpackedFloat.ofScientific .binary64 n 0 =
    roundWithAccuracy .binary64 .positive (n * 2 ^ 53) (-53) .exact := by
  have hpow : (0 : Int) ≤ 2 ^ Format.binary64.exponentBits := Int.pow_nonneg (by decide)
  rw [UnpackedFloat.ofScientific, dif_neg hn, if_neg (by omega), if_neg (by omega),
    if_pos (Int.le_refl 0), mul_finite, Nat.shiftLeft_eq]
  change roundWithAccuracy .binary64 .positive (n * 2 ^ 53 * 1) _ _ = _
  rw [Nat.mul_one]
  rfl

/-- The digits of a larger number are rounded to 53 of them. -/
theorem holds_ofScientific (hlow : 2 ^ 53 ≤ n) (hn : n.log2 < 1023) :
    Holds (UnpackedFloat.ofScientific .binary64 n 0) (nearestNat n) := by
  have hne : n ≠ 0 := by omega
  have hlog : 53 ≤ n.log2 := (Nat.le_log2 hne).mpr hlow
  have hdigits : (n * 2 ^ 53).log2 - 52 = n.log2 - 52 + 53 := by
    rw [log2_mul_two_pow hne]
    omega
  have hround : roundToEven (n * 2 ^ 53) (2 ^ (n.log2 - 52 + 53)) = roundToEven n (spacing n) := by
    rw [Nat.pow_add, roundToEven_mul_right (by decide), spacing]
  have hhigh : (nearestNat n).log2 < 1024 := by
    have hle := (nearestNat_mem hne).2
    have hpos := (Nat.two_pow_pos n.log2).trans_le (nearestNat_mem hne).1
    have hlt := (Nat.log2_lt hpos.ne').mpr (hle.trans_lt (Nat.pow_lt_pow_succ Nat.one_lt_two))
    omega
  rw [ofScientific_eq hne]
  refine holds_roundWithAccuracy .positive (by omega) (by omega) ?_ hhigh
  have hexp : (-53 + (n.log2 - 52 + 53 : Nat) + 52 : Int).toNat = n.log2 - 52 + 52 := by omega
  rw [hdigits, hround, hexp, Nat.pow_add, ← Nat.mul_assoc]
  rfl

/-- **The double of a whole number is the one nearest to it.** -/
theorem isDouble_ofNat (hn : n.log2 < 1023) : IsDouble (Float.ofNat n) (nearestNat n) := by
  change IsDouble (Float.ofScientific n false 0) _
  rw [Float.ofScientific]
  by_cases hsmall : n < 2 ^ 53
  · have hself : n.toUInt64.toNat = n := by
      rw [Nat.toUInt64, UInt64.toNat_ofNat']
      omega
    have hdouble : IsDouble n.toUInt64.toFloat n := by
      refine IsDouble.of_holds (u := UnpackedFloat.ofUInt64 .binary64 n.toUInt64) ?_
      rw [UnpackedFloat.ofUInt64, hself]
      exact holds_ofNat_of_lt hsmall
    have hone : (Float.exactlyRepresentablePowersOfTen[0]).toModel.unpack =
        .finite .positive (2 ^ 52) (-52) (Nat.two_pow_pos 52) := rfl
    have hproduct := Holds.mul_one hdouble (Nat.two_pow_pos 52)
    rw [← hone] at hproduct
    rw [dif_pos ⟨hsmall, by decide⟩, nearestNat_of_lt hsmall]
    exact IsDouble.of_holds hproduct
  · rw [dif_neg fun h => hsmall h.1]
    exact IsDouble.of_holds (holds_ofScientific (Nat.not_lt.mp hsmall) hn)

theorem isDouble_ofInt {n : Int} (hn : n.natAbs.log2 < 1023) :
    IsDouble (Float.ofInt n) (nearest n) := by
  cases n with
  | ofNat n => exact nearest_natCast n ▸ isDouble_ofNat hn
  | negSucc n =>
    have hdouble := (isDouble_ofNat hn).neg
    rw [← nearest_natCast, ← nearest_neg] at hdouble
    exact hdouble

/-! ## Comparing doubles -/

theorem IsDouble.lt_iff (h : IsDouble x a) (h' : IsDouble y b) : x < y ↔ a < b := by
  have hcompare := Holds.compare_eq h h'
  refine (decide_eq_true_iff (p := x.toModel < y.toModel)).trans ?_
  change (x.toModel.unpack.compare y.toModel.unpack == some .lt) = true ↔ a < b
  rw [hcompare, beq_iff_eq, Option.some.injEq, Int.compare_eq_lt]

theorem IsDouble.beq_iff (h : IsDouble x a) (h' : IsDouble y b) : (x == y) = true ↔ a = b := by
  have hcompare := Holds.compare_eq h h'
  change (x.toModel.unpack.compare y.toModel.unpack == some .eq) = true ↔ a = b
  rw [hcompare, beq_iff_eq, Option.some.injEq, Int.compare_eq_eq]

/-! ## Finiteness -/

theorem toNat_unpackExponent (b : BitVec 64) :
    (@unpackExponent .binary64 b).toNat = b.toNat / 2 ^ 52 % 2 ^ 11 := by
  change (b.extractLsb 62 52).toNat = _
  rw [BitVec.extractLsb_toNat, Nat.shiftRight_eq_div_pow]

/-- A double that is a whole number is finite. -/
theorem IsDouble.isFinite (h : IsDouble x a) : (Binary64.ofFloat x).isFinite = true := by
  have hexponent : x.toBits.toNat / Nat.pow 2 52 % Nat.pow 2 11 ≠ 2047 := by
    intro heq
    have hall : @unpackExponent .binary64 x.toModel.toBits.toBitVec = -1#11 :=
      BitVec.eq_of_toNat_eq ((toNat_unpackExponent _).trans heq)
    change Holds (UnpackedFloat.unpack .binary64 x.toModel.toBits.toBitVec) a at h
    rw [unpack_of_exponent_eq_ones hall] at h
    split at h <;> cases h
  rw [Binary64.ofFloat]
  split
  · contradiction
  · split <;> rfl

end Number

end StreamScript
