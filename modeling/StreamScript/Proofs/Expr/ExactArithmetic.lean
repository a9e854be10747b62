import StreamScript.Proofs.Expr.Comparison

/-!
# Arithmetic on whole numbers

An operator of arithmetic takes two whole numbers for integers, and what it makes of them
is said here in integers alone (`BinOp.Gives`): a sum, a difference, a product, a quotient
where the division leaves nothing, and the remainder of a division toward zero.  The answer
should be that integer when 64 bits hold it and a double in every other case
(`Value.IsExact`), and only a division by zero should have none.

So it is, but for one remainder (`Value.calculatesExactly_iff`).  A remainder is taken for
whole only when the quotient that belongs to it fits.  Every remainder fits, but there is a
quotient that does not, that of the least number and `-1`; what is left over there is zero,
and it is answered as a double.
-/

namespace StreamScript

open Number

/-! ## What 64 bits hold -/

namespace Number

theorem fits_toInt (n : Int64) : Fits n.toInt :=
  ⟨n.le_toInt, Int.le_of_lt_add_one n.toInt_lt⟩

theorem toInt_ofInt_of_fits {a : Int} (h : Fits a) : (Int64.ofInt a).toInt = a :=
  Int64.toInt_ofInt_of_le h.1 (Int.lt_add_one_of_le h.2)

/-- **One quotient does not fit**: the least number by `-1`. -/
theorem fits_tdiv_iff (m n : Int64) :
    Fits (m.toInt.tdiv n.toInt) ↔ ¬ (m = Int64.minValue ∧ n = -1) := by
  constructor
  · rintro hfits ⟨rfl, rfl⟩
    exact absurd hfits (by decide)
  · intro hne
    rcases not_and_or.mp hne with hm | hn
    · exact Int64.toInt_div_of_ne_left m n hm ▸ fits_toInt (m / n)
    · exact Int64.toInt_div_of_ne_right m n hn ▸ fits_toInt (m / n)

end Number

/-! ## What an operator gives -/

namespace BinOp

/-- The integer that an operator of arithmetic makes of two integers. -/
inductive Gives : BinOp → Int → Int → Int → Prop where
  | add (a b : Int) : Gives .add a b (a + b)
  | sub (a b : Int) : Gives .sub a b (a - b)
  | mul (a b : Int) : Gives .mul a b (a * b)
  -- only a division that leaves nothing has an integer for its quotient
  | div {b : Int} (hb : b ≠ 0) (q : Int) : Gives .div (b * q) b q
  | rem {b : Int} (hb : b ≠ 0) (a : Int) : Gives .rem a b (a.tmod b)

/-- The operators of arithmetic. -/
def arithmetic : List BinOp :=
  [.add, .sub, .mul, .div, .rem]

/-- The operators that divide. -/
def divisions : List BinOp :=
  [.div, .rem]

variable {a b c : Int}

theorem gives_add_iff : Gives .add a b c ↔ a + b = c :=
  ⟨fun h => by cases h; rfl, fun h => h ▸ .add a b⟩

theorem gives_sub_iff : Gives .sub a b c ↔ a - b = c :=
  ⟨fun h => by cases h; rfl, fun h => h ▸ .sub a b⟩

theorem gives_mul_iff : Gives .mul a b c ↔ a * b = c :=
  ⟨fun h => by cases h; rfl, fun h => h ▸ .mul a b⟩

theorem gives_div_iff (hb : b ≠ 0) : Gives .div a b c ↔ a.tmod b = 0 ∧ a.tdiv b = c := by
  constructor
  · rintro ⟨⟩
    exact ⟨Int.mul_tmod_right b c, Int.mul_tdiv_cancel_left c hb⟩
  · rintro ⟨hmod, hdiv⟩
    have hmul : b * c = a := hdiv ▸ Int.mul_tdiv_cancel_of_tmod_eq_zero hmod
    exact hmul ▸ .div hb c

theorem gives_rem_iff (hb : b ≠ 0) : Gives .rem a b c ↔ a.tmod b = c :=
  ⟨fun h => by cases h; rfl, fun h => h ▸ .rem hb a⟩

end BinOp

namespace Num

variable {whole? : Int → Int → Option Int} {approx : Float → Float → Float} {m n : Int64}

/-- Whole numbers are combined to a whole one just where the operation has a result that fits. -/
theorem combine_int_eq_iff (r : Int64) :
    combine whole? approx (.int m) (.int n) = .int r ↔
      whole? m.toInt n.toInt = some r.toInt := by
  rw [Num.combine]
  cases whole? m.toInt n.toInt with
  | none => exact iff_of_false (fun h => by cases h) fun h => by cases h
  | some a =>
    dsimp only
    rw [Option.some.injEq]
    by_cases hfits : Fits a
    · rw [if_pos hfits, int.injEq, ← Int64.toInt_inj, toInt_ofInt_of_fits hfits]
    · rw [if_neg hfits]
      exact iff_of_false (fun h => by cases h) fun heq => hfits (heq ▸ fits_toInt r)

theorem neg_int_eq_iff (r : Int64) : (Num.int n).neg = .int r ↔ -n.toInt = r.toInt := by
  rw [neg]
  by_cases hfits : Fits (-n.toInt)
  · rw [if_pos hfits, int.injEq, ← Int64.toInt_inj, toInt_ofInt_of_fits hfits]
  · rw [if_neg hfits]
    exact iff_of_false (fun h => by cases h) fun heq => hfits (heq ▸ fits_toInt r)

/-- The least number leaves zero when it is divided by `-1`, and the zero is a double. -/
theorem rem_least : rem (.int Int64.minValue) (.int (-1)) = .real (-0.0) := by
  decide +kernel

end Num

namespace Value

variable {whole? : Int → Int → Option Int} {approx : Float → Float → Float} {m n : Int64}

/-! ## What is answered -/

/-- An answer is the exact result when 64 bits hold it, and a double in every other case. -/
structure IsExact (result : Int → Prop) (answer : Except ExprError Value) : Prop where
  int_iff (r : Int64) : answer = .ok (int r) ↔ result r.toInt
  int_or_real : (∃ r, answer = .ok (int r)) ∨ ∃ x, answer = .ok (real x)

/-- An operator calculates with two whole numbers as it should: it fails only to divide by zero, and
is exact otherwise. -/
structure CalculatesExactly (op : BinOp) (m n : Int64) : Prop where
  divideByZero_iff :
    op.apply (int m) (int n) = .error .divideByZero ↔ op ∈ BinOp.divisions ∧ n = 0
  isExact (h : ¬ (op ∈ BinOp.divisions ∧ n = 0)) :
    IsExact (op.Gives m.toInt n.toInt) (op.apply (int m) (int n))

theorem isExact_of_num {result : Int → Prop} {k : Num}
    (h : ∀ r : Int64, k = .int r ↔ result r.toInt) : IsExact result (.ok (.num k)) where
  int_iff r := by rw [← h r, Except.ok.injEq, Value.num.injEq]
  int_or_real := by
    cases k with
    | int r => exact .inl ⟨r, rfl⟩
    | real x => exact .inr ⟨x, rfl⟩

theorem isExact_combine {result : Int → Prop}
    (h : ∀ c : Int, whole? m.toInt n.toInt = some c ↔ result c) :
    IsExact result (arith (Num.combine whole? approx) (int m) (int n)) :=
  isExact_of_num fun r => (Num.combine_int_eq_iff r).trans (h r.toInt)

/-! ## Division -/

theorem isDouble_zero : IsDouble 0.0 0 := by
  have hzero : (0.0 : Float) = Float.ofNat 0 := by decide +kernel
  rw [hzero]
  exact isDouble_ofNat (by decide)

/-- No whole number but zero has zero for its nearest double. -/
theorem nearest_eq_zero_iff {a : Int} : nearest a = 0 ↔ a = 0 := by
  refine ⟨fun h => ?_, fun h => by rw [h]; rfl⟩
  rcases Int.mul_eq_zero.mp h with hsign | hsize
  · exact Int.sign_eq_zero_iff_zero.mp hsign
  · by_contra ha
    have hpos := (Nat.two_pow_pos _).trans_le (nearestNat_mem (Int.natAbs_ne_zero.mpr ha)).1
    omega

theorem isZero_int : (int n).isZero = true ↔ n = 0 := by
  refine ((isDouble_int n).beq_iff isDouble_zero).trans (nearest_eq_zero_iff.trans ?_)
  rw [← Int64.toInt_inj]
  rfl

theorem toInt_ne_zero (h : n ≠ 0) : n.toInt ≠ 0 :=
  fun h' => h (Int64.toInt_inj.mp h')

/-- What is not divided by zero is combined as it should be, up to whether a remainder fits. -/
theorem isExact_apply {op : BinOp} (hop : op ∈ BinOp.arithmetic)
    (hzero : ¬ (op ∈ BinOp.divisions ∧ n = 0))
    (hfits : op = .rem → Fits (m.toInt.tdiv n.toInt)) :
    IsExact (op.Gives m.toInt n.toInt) (op.apply (int m) (int n)) := by
  have hdivisor (h : op ∈ BinOp.divisions) : (int n).isZero ≠ true ∧ n.toInt ≠ 0 := by
    have hn : n ≠ 0 := fun hn => hzero ⟨h, hn⟩
    exact ⟨mt isZero_int.mp hn, toInt_ne_zero hn⟩
  simp only [BinOp.arithmetic, List.mem_cons, List.not_mem_nil, or_false] at hop
  rcases hop with rfl | rfl | rfl | rfl | rfl
  · exact isExact_combine fun c => Option.some_inj.trans BinOp.gives_add_iff.symm
  · exact isExact_combine fun c => Option.some_inj.trans BinOp.gives_sub_iff.symm
  · exact isExact_combine fun c => Option.some_inj.trans BinOp.gives_mul_iff.symm
  · obtain ⟨hisZero, hn⟩ := hdivisor (by decide)
    rw [BinOp.apply, Value.div, if_neg hisZero]
    refine isExact_combine fun c => Iff.trans ?_ (BinOp.gives_div_iff hn).symm
    rw [Option.ite_none_right_eq_some, Option.some_inj]
  · obtain ⟨hisZero, hn⟩ := hdivisor (by decide)
    rw [BinOp.apply, Value.rem, if_neg hisZero]
    refine isExact_combine fun c => Iff.trans ?_ (BinOp.gives_rem_iff hn).symm
    rw [if_pos (hfits rfl), Option.some_inj]

theorem apply_eq_divideByZero_iff {op : BinOp} (hop : op ∈ BinOp.arithmetic) :
    op.apply (int m) (int n) = .error .divideByZero ↔ op ∈ BinOp.divisions ∧ n = 0 := by
  simp only [BinOp.arithmetic, List.mem_cons, List.not_mem_nil, or_false] at hop
  have hdivision (op : Num → Num → Num) :
      (if (int n).isZero = true then .error .divideByZero else arith op (int m) (int n)) =
        (.error .divideByZero : Except ExprError Value) ↔ n = 0 := by
    rw [← isZero_int]
    split
    · next h => exact iff_of_true rfl h
    · next h => exact iff_of_false (fun heq => by cases heq) h
  rcases hop with rfl | rfl | rfl | rfl | rfl
  · exact iff_of_false (fun h => by cases h) fun h => absurd h.1 (by decide)
  · exact iff_of_false (fun h => by cases h) fun h => absurd h.1 (by decide)
  · exact iff_of_false (fun h => by cases h) fun h => absurd h.1 (by decide)
  · exact (hdivision Num.div).trans (and_iff_right (by decide)).symm
  · exact (hdivision Num.rem).trans (and_iff_right (by decide)).symm

/-- The remainder of the least number by `-1` is answered as a double. -/
theorem apply_rem_least :
    BinOp.rem.apply (int Int64.minValue) (int (-1)) = .ok (real (-0.0)) := by
  rw [BinOp.apply, Value.rem, if_neg (mt isZero_int.mp (by decide))]
  exact congrArg (fun k => Except.ok (Value.num k)) Num.rem_least

theorem gives_rem_least :
    BinOp.Gives .rem Int64.minValue.toInt (-1 : Int64).toInt (0 : Int64).toInt :=
  (BinOp.gives_rem_iff (by decide)).mpr (by decide)

theorem not_isExact_rem_least :
    ¬ IsExact (BinOp.Gives .rem Int64.minValue.toInt (-1 : Int64).toInt)
      (BinOp.rem.apply (int Int64.minValue) (int (-1))) := by
  intro h
  have hwhole := (h.int_iff 0).mpr gives_rem_least
  rw [apply_rem_least] at hwhole
  cases hwhole

/-! ## What arithmetic gets right -/

/-- **Arithmetic on whole numbers is exact but for the remainder of the least number by `-1`.**  A
result that 64 bits hold is that whole number, any other is a double, and nothing fails but a
division by zero.  A negative is exact without exception. -/
theorem calculatesExactly_iff {op : BinOp} (hop : op ∈ BinOp.arithmetic) (m n : Int64) :
    (CalculatesExactly op m n ↔ ¬ (op = .rem ∧ m = Int64.minValue ∧ n = -1)) ∧
      IsExact (-m.toInt = ·) (int m).neg := by
  refine ⟨⟨?_, fun hne => ⟨apply_eq_divideByZero_iff hop, fun hzero => ?_⟩⟩,
    isExact_of_num Num.neg_int_eq_iff⟩
  · rintro h ⟨rfl, rfl, rfl⟩
    exact not_isExact_rem_least (h.isExact (by decide))
  · exact isExact_apply hop hzero fun hrem =>
      (fits_tdiv_iff m n).mpr fun hleast => hne ⟨hrem, hleast⟩

/-- The quotient of the least number and `-1` is exact, for it is a double where no whole number is
the result. -/
theorem calculatesExactly_div_least :
    BinOp.div ∈ BinOp.arithmetic ∧ CalculatesExactly .div Int64.minValue (-1) ∧
      IsExact (-Int64.minValue.toInt = ·) (int Int64.minValue).neg := by
  have hop : BinOp.div ∈ BinOp.arithmetic := by decide
  obtain ⟨hiff, hneg⟩ := calculatesExactly_iff hop Int64.minValue (-1)
  exact ⟨hop, hiff.mpr (by decide), hneg⟩

/-- The least number leaves zero when it is divided by `-1`, but the answer is a double. -/
theorem not_calculatesExactly_rem_least :
    BinOp.Gives .rem Int64.minValue.toInt (-1 : Int64).toInt (0 : Int64).toInt ∧
      BinOp.rem.apply (int Int64.minValue) (int (-1)) = .ok (real (-0.0)) ∧
      ¬ CalculatesExactly .rem Int64.minValue (-1) :=
  ⟨gives_rem_least, apply_rem_least, fun h => not_isExact_rem_least (h.isExact (by decide))⟩

end Value

end StreamScript
