import StreamScript.Expr.Eval
import StreamScript.Proofs.Number.WholeDoubles

/-!
# Comparing whole numbers

Two numbers are compared as doubles, so what two whole numbers compare as is what the
doubles nearest to them do (`Value.order_int`, `Value.looseEq_int_iff`).  That is the
order of the numbers themselves unless they differ and share their nearest double, which
numbers of up to 53 digits do not.

Of the operators `<`, `==` and `>`, one holds of every two whole numbers and the other two
do not, since the same two doubles are compared by all three.
-/

namespace StreamScript

open Number

namespace Value

variable {x y : Float} {a b : Int}

theorem orderFloats_eq (h : IsDouble x a) (h' : IsDouble y b) :
    orderFloats x y = compare a b := by
  unfold orderFloats
  rcases Int.lt_trichotomy a b with hlt | rfl | hgt
  · rw [if_pos ((h.lt_iff h').mpr hlt), Int.compare_eq_lt.mpr hlt]
  · rw [if_neg (mt (h.lt_iff h').mp (Int.lt_irrefl a)),
      if_neg (mt (h'.lt_iff h).mp (Int.lt_irrefl a)), Int.compare_eq_eq.mpr rfl]
  · rw [if_neg (mt (h.lt_iff h').mp (Int.lt_asymm hgt)), if_pos ((h'.lt_iff h).mpr hgt),
      Int.compare_eq_gt.mpr hgt]

theorem order_num {m n : Num} (h : IsDouble m.toFloat a) (h' : IsDouble n.toFloat b) :
    (Value.num m).order (.num n) = .ok (compare a b) :=
  congrArg Except.ok (orderFloats_eq h h')

theorem isDouble_int (n : Int64) : IsDouble (Num.int n).toFloat (nearest n.toInt) := by
  have hle : n.toInt.natAbs ≤ 2 ^ 63 := by
    have hlow := n.le_toInt
    have hhigh := n.toInt_lt
    omega
  have hlog : n.toInt.natAbs.log2 < 1023 := by
    rcases Nat.eq_zero_or_pos n.toInt.natAbs with hzero | hpos
    · rw [hzero]
      decide
    · have hlt : n.toInt.natAbs < 2 ^ 64 := hle.trans_lt (by decide)
      have hlog64 := (Nat.log2_lt hpos.ne').mpr hlt
      omega
  exact isDouble_ofInt hlog

/-- **The order of two whole numbers is that of their nearest doubles.** -/
theorem order_int (m n : Int64) :
    (int m).order (int n) = .ok (compare (nearest m.toInt) (nearest n.toInt)) :=
  order_num (isDouble_int m) (isDouble_int n)

/-- **Two whole numbers count as equal if their nearest doubles are.** -/
theorem looseEq_int_iff (m n : Int64) :
    (int m).looseEq (int n) = true ↔ nearest m.toInt = nearest n.toInt :=
  (isDouble_int m).beq_iff (isDouble_int n)

/-! ## What comparing gets right -/

/-- Two whole numbers compare as they should: they count as equal when they are, and their order is
that of the integers. -/
structure ComparesExactly (m n : Int64) : Prop where
  looseEq : (int m).looseEq (int n) = true ↔ m = n
  order : (int m).order (int n) = .ok (compare m.toInt n.toInt)

theorem compare_nearest {a b : Int} (h : nearest a ≠ nearest b) :
    compare (nearest a) (nearest b) = compare a b := by
  rcases Int.lt_trichotomy a b with hlt | rfl | hgt
  · rw [Int.compare_eq_lt.mpr hlt,
      Int.compare_eq_lt.mpr (Int.lt_iff_le_and_ne.mpr ⟨nearest_mono (Int.le_of_lt hlt), h⟩)]
  · exact absurd rfl h
  · rw [Int.compare_eq_gt.mpr hgt,
      Int.compare_eq_gt.mpr (Int.lt_iff_le_and_ne.mpr ⟨nearest_mono (Int.le_of_lt hgt), h.symm⟩)]

theorem comparesExactly_of_eq_or_ne {m n : Int64}
    (h : m = n ∨ nearest m.toInt ≠ nearest n.toInt) : ComparesExactly m n := by
  rcases h with rfl | hne
  · refine ⟨iff_of_true ((looseEq_int_iff m m).mpr rfl) rfl, ?_⟩
    rw [order_int, Int.compare_eq_eq.mpr rfl, Int.compare_eq_eq.mpr rfl]
  · have hmn : m ≠ n := fun heq => hne (heq ▸ rfl)
    exact ⟨iff_of_false (mt (looseEq_int_iff m n).mp hne) hmn,
      (order_int m n).trans (congrArg Except.ok (compare_nearest hne))⟩

/-- Numbers of up to 53 digits compare as they should. -/
theorem comparesExactly_of_natAbs_le {m n : Int64} (hm : m.toInt.natAbs ≤ 2 ^ 53)
    (hn : n.toInt.natAbs ≤ 2 ^ 53) : ComparesExactly m n := by
  refine comparesExactly_of_eq_or_ne ?_
  rw [nearest_of_natAbs_le hm, nearest_of_natAbs_le hn]
  exact (em (m = n)).imp_right (mt Int64.toInt_inj.mp)

/-- The operators that ask how two values compare. -/
def comparisons : List BinOp :=
  [.lt, .eq, .gt]

/-- The operator that holds of two values of an order. -/
def comparisonOf : Ordering → BinOp
  | .lt => .lt
  | .eq => .eq
  | .gt => .gt

theorem comparisonOf_mem (o : Ordering) : comparisonOf o ∈ comparisons := by
  cases o <;> decide

theorem eval_comparison (groups : Captures) (m n : Int64) {op : BinOp} (hop : op ∈ comparisons) :
    (Expr.binary op (.literal (int m)) (.literal (int n))).eval groups =
      .ok ⟨.bool (op == comparisonOf (compare (nearest m.toInt) (nearest n.toInt))), groups⟩ := by
  have hless (o : Ordering) : (o == .lt) = (BinOp.lt == comparisonOf o) := by cases o <;> rfl
  have hequal (o : Ordering) : (o == .eq) = (BinOp.eq == comparisonOf o) := by cases o <;> rfl
  have hgreater (o : Ordering) : (o == .gt) = (BinOp.gt == comparisonOf o) := by cases o <;> rfl
  simp only [comparisons, List.mem_cons, List.not_mem_nil, or_false] at hop
  rcases hop with rfl | rfl | rfl
  · rw [← hless]
    change ((int m).order (int n)).map (fun o => (⟨.bool (o == .lt), groups⟩ : Evaluated)) = _
    rw [order_int]
    rfl
  · have hlooseEq : (int m).looseEq (int n) =
        (compare (nearest m.toInt) (nearest n.toInt) == .eq) := by
      rw [Bool.eq_iff_iff, looseEq_int_iff, beq_iff_eq, Int.compare_eq_eq]
    rw [← hequal, ← hlooseEq]
    rfl
  · rw [← hgreater]
    change ((int m).order (int n)).map (fun o => (⟨.bool (o == .gt), groups⟩ : Evaluated)) = _
    rw [order_int]
    rfl

/-- **Two whole numbers compare as they should unless they differ and share their nearest double.**
One of the three operators holds of them in any case, and the other two do not.  Numbers of up to 53
digits compare as they should. -/
theorem comparesExactly_iff (m n : Int64) :
    (ComparesExactly m n ↔ m = n ∨ nearest m.toInt ≠ nearest n.toInt) ∧
      (∀ groups, ∃ op ∈ comparisons, ∀ op' ∈ comparisons,
        (Expr.binary op' (.literal (int m)) (.literal (int n))).eval groups =
          .ok ⟨.bool (op' == op), groups⟩) ∧
      (m.toInt.natAbs ≤ 2 ^ 53 → n.toInt.natAbs ≤ 2 ^ 53 → ComparesExactly m n) := by
  refine ⟨⟨fun h => ?_, comparesExactly_of_eq_or_ne⟩, fun groups => ?_,
    comparesExactly_of_natAbs_le⟩
  · exact (em (m = n)).imp_right fun hmn hnearest =>
      hmn (h.looseEq.mp ((looseEq_int_iff m n).mpr hnearest))
  · exact ⟨comparisonOf (compare (nearest m.toInt) (nearest n.toInt)), comparisonOf_mem _,
      fun op' hop' => eval_comparison groups m n hop'⟩

/-- The last two numbers of up to 53 digits do. -/
theorem comparesExactly_last : ComparesExactly 9007199254740992 9007199254740991 :=
  (comparesExactly_iff _ _).2.2 (by decide) (by decide)

/-- The first whole number that is no double counts as equal to the one before it. -/
theorem not_comparesExactly_beyond : ¬ ComparesExactly 9007199254740993 9007199254740992 := by
  intro h
  have hnearest : nearest (9007199254740993 : Int64).toInt =
      nearest (9007199254740992 : Int64).toInt := by decide +kernel
  have heq := h.looseEq.mp ((looseEq_int_iff _ _).mpr hnearest)
  exact absurd heq (by decide)

end Value

end StreamScript
