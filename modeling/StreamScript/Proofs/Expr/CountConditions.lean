import StreamScript.Proofs.Expr.Comparison
import StreamScript.Proofs.Expr.Precedence

/-!
# Conditions on counts

A condition that asks whether one count is at least another is text, in which both
counts stand as numerals.  The host reads the text, makes numbers of the numerals and
compares them as doubles, so what it answers is whether the double nearest to the one
count is at least the double nearest to the other (`Phrase.evalBool_atLeast`).

Every count that a word of 64 bits holds is read as a number, also one that no integer of
64 bits holds and that is a double from the start (`Number.exists_read?_natText`).
-/

namespace StreamScript

open Text

/-! ## Numerals -/

namespace Number

variable {digits : List Char} {n : Nat}

/-- Zeros in front of digits do not count. -/
theorem ofDigits_dropWhile (cs : List Char) : ofDigits (cs.dropWhile (· == '0')) = ofDigits cs := by
  induction cs with
  | nil => rfl
  | cons c cs ih =>
    rw [List.dropWhile_cons]
    split
    · next hzero =>
      obtain rfl : c = '0' := beq_iff_eq.mp hzero
      exact ih
    · rfl

theorem read?_of_isDigit (hne : digits ≠ []) (h : ∀ c ∈ digits, c.isDigit = true) :
    Numeral.read? digits = some ⟨digits, [], 0⟩ := by
  have htake : digits.takeWhile Char.isDigit = digits := List.takeWhile_eq_self_iff.mpr h
  have hdrop : digits.dropWhile Char.isDigit = [] := List.dropWhile_eq_nil_iff.mpr h
  rw [Numeral.read?, htake, hdrop]
  dsimp only
  rw [List.isEmpty_eq_false_iff.mpr hne]
  rfl

theorem toFloat_of_digits (hpos : ofDigits digits ≠ 0) (hlength : digits.length ≤ 310) :
    Numeral.toFloat ⟨digits, [], 0⟩ = Float.ofScientific (ofDigits digits) false 0 := by
  have hkept : digits.dropWhile (· == '0') ≠ [] := by
    intro hnil
    rw [← ofDigits_dropWhile, hnil] at hpos
    exact hpos rfl
  have hsize := (List.dropWhile_suffix (l := digits) (· == '0')).length_le
  rw [Numeral.toFloat]
  dsimp only [List.length_nil]
  rw [List.append_nil, List.isEmpty_eq_false_iff.mpr hkept, if_neg (by simp), if_neg (by omega),
    ofDigits_dropWhile]
  rfl

/-- Digits that do not stand for zero, and are not more than a double has room for, are read as the
double made of their value. -/
theorem readFloat?_of_isDigit (h : ∀ c ∈ digits, c.isDigit = true) (hpos : ofDigits digits ≠ 0)
    (hlength : digits.length ≤ 310) :
    readFloat? digits = some (Float.ofScientific (ofDigits digits) false 0) := by
  obtain ⟨c, rest, rfl⟩ : ∃ c rest, digits = c :: rest :=
    List.exists_cons_of_ne_nil fun hnil => hpos (hnil ▸ rfl)
  have hc := h c (List.mem_cons_self ..)
  have hstart (d : Char) (hd : d.isDigit = false) : c ≠ d :=
    fun heq => Bool.false_ne_true (hd.symm.trans (heq ▸ hc))
  have hlower : c.toLower = c := by
    refine dif_neg fun hrange => ?_
    have hle : 65 ≤ c.toNat := UInt32.le_iff_toNat_le.mp hrange.1
    have hdigit : c.toNat ≤ 57 := (Char.isDigit_iff_toNat.mp hc).2
    omega
  -- the words for the values that have no numeral start with letters
  have hword (word : String) (hfirst : word.toList.head? ≠ some c) :
      String.ofList ((c :: rest).map Char.toLower) ≠ word := by
    rintro rfl
    rw [String.toList_ofList, List.map_cons, hlower] at hfirst
    exact hfirst rfl
  have hinf := hword "inf" fun heq => hstart 'i' (by decide) (Option.some.inj heq).symm
  have hinfinity := hword "infinity" fun heq => hstart 'i' (by decide) (Option.some.inj heq).symm
  have hnan := hword "nan" fun heq => hstart 'n' (by decide) (Option.some.inj heq).symm
  have hunsigned : readUnsigned? (c :: rest) =
      some (Float.ofScientific (ofDigits (c :: rest)) false 0) := by
    rw [readUnsigned?, if_neg (not_or.mpr ⟨hinf, hinfinity⟩), if_neg hnan,
      read?_of_isDigit (List.cons_ne_nil _ _) h, Option.map_some, toFloat_of_digits hpos hlength]
  rw [← hunsigned]
  unfold readFloat?
  split
  · next heq => exact absurd (List.cons.inj heq).1 (hstart '-' (by decide))
  · next heq => exact absurd (List.cons.inj heq).1 (hstart '+' (by decide))
  · rfl

/-- **A count is read as a number whose double is the one nearest to it.** -/
theorem exists_read?_natText (hn : n ≤ maxCount) :
    ∃ m, Num.read? (natText n) = some m ∧ IsDouble m.toFloat (nearestNat n) := by
  have hdigit : ∀ c ∈ natText n, c.isDigit = true := fun _ => isDigit_of_mem_natText
  rw [Num.read?, trim_of_isDigit hdigit, readInt64?_of_isDigit (natText_ne_nil n) hdigit,
    ofDigitChars_natText]
  by_cases hsmall : n < 2 ^ 63
  · have hint : (Int64.ofInt n).toInt = n :=
      Int64.toInt_ofInt_of_le (by change (-9223372036854775808 : Int) ≤ n; omega)
        (by change (n : Int) < 9223372036854775808; omega)
    have hdouble := Value.isDouble_int (Int64.ofInt n)
    rw [hint, nearest_natCast] at hdouble
    rw [if_pos hsmall]
    exact ⟨_, rfl, hdouble⟩
  · have hvalue : ofDigits (natText n) = n := by
      rw [ofDigits, digitsFrom_eq, ofDigitChars_natText]
    have hlarge : n < 2 ^ 64 := Nat.lt_succ_of_le hn
    have hlength : (natText n).length ≤ 20 :=
      (Nat.length_toDigits_le_iff (by decide) (by decide)).mpr (by omega)
    have hlog : n.log2 < 1023 :=
      ((Nat.log2_lt (by omega)).mpr hlarge).trans (by decide)
    have hdouble : IsDouble (Float.ofScientific n false 0) (nearestNat n) := isDouble_ofNat hlog
    have hany : (natText n).any Char.isDigit = true := by
      obtain ⟨c, hc⟩ := List.exists_mem_of_ne_nil _ (natText_ne_nil n)
      exact List.any_eq_true.mpr ⟨c, hc, hdigit c hc⟩
    rw [if_neg hsmall, readFloat?_of_isDigit hdigit (by omega) (by omega), hvalue]
    dsimp only [Option.bind_some]
    rw [hdouble.isFinite, hany]
    exact ⟨_, rfl, hdouble⟩

end Number

open Number

/-! ## What the host answers -/

/-- The text of the condition that one count is at least another. -/
def atLeastText (n k : Nat) : List Char :=
  natText n ++ " >= ".toList ++ natText k

variable {n k : Nat}

theorem tokenize_atLeastText (n k : Nat) :
    Token.tokenize (atLeastText n k) =
      .ok [Token.ofNumberText (natText n), .ge, Token.ofNumberText (natText k)] := by
  have hends : Token.Ends (" >= ".toList ++ natText k) := fun c hc => (Option.some.inj hc).symm
  obtain ⟨c, cs, hcs, hc, hlexeme⟩ := Token.lexeme_natText n hends
  obtain ⟨d, ds, hds, hd, hlexeme'⟩ := @Token.lexeme_natText k [] nofun
  rw [List.append_nil] at hds
  have hstart {c : Char} {cs : List Char} (hc : isBlank c = false) :
      trimStart (c :: cs) = c :: cs :=
    Statement.trimStart_eq_self fun _ he => Option.some.inj he ▸ hc
  have hge : trimStart (" >= ".toList ++ natText k) = '>' :: '=' :: ' ' :: natText k := rfl
  have hlast : trimStart (' ' :: natText k) = d :: ds := by
    rw [hds]
    exact hstart hd
  have hnil : Token.tokenize [] = .ok [] := Token.tokenize_of_blank rfl
  rw [atLeastText, List.append_assoc, hcs, Token.tokenize_of_lexeme (hstart hc) hlexeme,
    Token.tokenize_of_lexeme hge rfl, Token.tokenize_of_lexeme hlast hlexeme', hnil]
  rfl

/-- The host answers whether the nearest doubles are in order. -/
theorem Host.bundled_atLeast (hn : n ≤ maxCount) (hk : k ≤ maxCount) :
    Host.bundled (String.ofList (atLeastText n k)) =
      .ok ⟨.bool (decide (nearestNat k ≤ nearestNat n)), []⟩ := by
  obtain ⟨x, hread, hx⟩ := exists_read?_natText hn
  obtain ⟨y, hread', hy⟩ := exists_read?_natText hk
  have hparse : Expr.parse (String.ofList (atLeastText n k)) =
      .ok (.binary .ge (.literal (.num x)) (.literal (.num y))) := by
    rw [Expr.parse, String.toList_ofList, tokenize_atLeastText, Token.ofNumberText,
      Token.ofNumberText, hread, hread']
    have hreads : Expr.Reads (.binary .ge (.literal (.num x)) (.literal (.num y))) :=
      Expr.reads_binary (Expr.reads_literal (.num x)) (Expr.reads_literal (.num y))
    exact hreads.ofTokens
  have hvalue : (compare (nearestNat n : Int) (nearestNat k) != .lt) =
      decide (nearestNat k ≤ nearestNat n) := by
    rw [Bool.eq_iff_iff, bne_iff_ne, ne_eq, Int.compare_eq_lt, decide_eq_true_iff]
    omega
  rw [Host.bundled, hparse]
  change ((Value.num x).order (.num y)).map (fun o => (⟨.bool (o != .lt), []⟩ : Evaluated)) = _
  rw [Value.order_num hx hy, ← hvalue]
  rfl

theorem readBool?_of_mem {cs : List Char} (h : ' ' ∈ trim cs) : readBool? cs = none := by
  have hlower : ' ' ∈ lowerAscii (trim cs) := List.mem_map.mpr ⟨' ', h, rfl⟩
  rw [readBool?]
  generalize lowerAscii (trim cs) = letters at hlower
  have hword {word : String} (heq : String.ofList letters = word) : ' ' ∈ word.toList := by
    rw [← heq, String.toList_ofList]
    exact hlower
  split
  all_goals first
    | rfl
    | next heq => exact absurd (hword heq) (by decide)

/-- What ends with a count is not trimmed at its end. -/
theorem trim_append_natText {c : Char} (hc : isBlank c = false) (cs : List Char) (k : Nat) :
    trim (c :: cs ++ natText k) = c :: cs ++ natText k := by
  have hback : trimEnd (natText k) = natText k :=
    trimEnd_of_trim (trim_of_isDigit fun _ => isDigit_of_mem_natText)
  have hfront : trimStart (c :: cs ++ natText k) = c :: cs ++ natText k :=
    Statement.trimStart_eq_self fun _ hd => Option.some.inj hd ▸ hc
  rw [trim, hfront, Statement.trimEnd_append (by rw [hback]; exact natText_ne_nil k), hback]

theorem trim_atLeastText (n k : Nat) : trim (atLeastText n k) = atLeastText n k := by
  obtain ⟨c, cs, hcs⟩ := List.exists_cons_of_ne_nil (natText_ne_nil n)
  have hdigit : c.isDigit = true := isDigit_of_mem_natText (n := n) (hcs ▸ List.mem_cons_self ..)
  rw [atLeastText, hcs]
  exact trim_append_natText (isBlank_of_isDigit hdigit) (cs ++ " >= ".toList) k

/-- No expression starts with the sign for a remainder. -/
theorem readLevel_percent (ts : List Token) (fuel level : Nat) :
    ∃ e, Expr.readLevel fuel level (.percent :: ts) = .error e := by
  induction fuel generalizing level with
  | zero => exact ⟨_, rfl⟩
  | succ fuel ih =>
    rw [Expr.readLevel]
    split
    · obtain ⟨e, he⟩ := ih (level + 1)
      rw [he]
      exact ⟨e, rfl⟩
    · cases fuel with
      | zero => exact ⟨_, rfl⟩
      | succ fuel => exact ⟨_, rfl⟩

theorem Host.bundled_percent (cs : List Char) :
    ∃ e, Host.bundled (String.ofList ('%' :: cs)) = .error e := by
  have hstart : trimStart ('%' :: cs) = '%' :: cs := rfl
  have hlexeme : Token.lexeme '%' cs = .ok (.percent, cs) := rfl
  rw [bundled, Expr.parse, String.toList_ofList, Token.tokenize_of_lexeme hstart hlexeme]
  cases Token.tokenize cs with
  | error e => exact ⟨e, rfl⟩
  | ok ts =>
    obtain ⟨e, he⟩ := readLevel_percent ts (10 * ((Token.percent :: ts).length + 1)) 0
    have hparse : Expr.ofTokens (.percent :: ts) = .error e := by
      rw [Expr.ofTokens, he]
      rfl
    refine ⟨e, ?_⟩
    change (Expr.ofTokens (.percent :: ts) >>= fun e => e.eval []) = _
    rw [hparse]
    rfl

/-! ## What a phrase answers -/

variable {subst : String → String} {text : String}

/-- Neither a word for a truth value nor blank, a text that is trimmed is left to the host. -/
theorem Phrase.result_evalBool (host : Host) {cs : List Char}
    (hsubst : subst text = String.ofList cs) (htrim : trim cs = cs) (hblank : ' ' ∈ cs) :
    ((Phrase.text text).evalBool host subst).result =
      (match host (String.ofList cs) with
        | .ok out => truthOf out.value
        | .error _ => false) := by
  have hbool : readBool? cs = none := readBool?_of_mem (htrim.symm ▸ hblank)
  rw [evalBool, resolve]
  dsimp only
  rw [hsubst, String.toList_ofList, htrim,
    List.isEmpty_eq_false_iff.mpr (List.ne_nil_of_mem hblank), hbool]
  cases host (String.ofList cs) <;> rfl

/-- **A condition that becomes a comparison of two counts holds if their nearest doubles are in
order.** -/
theorem Phrase.evalBool_atLeast (hn : n ≤ maxCount) (hk : k ≤ maxCount)
    (hsubst : subst text = String.ofList (atLeastText n k)) :
    ((Phrase.text text).evalBool Host.bundled subst).result =
      decide (nearestNat k ≤ nearestNat n) := by
  have hblank : ' ' ∈ atLeastText n k :=
    List.mem_append_left _ (List.mem_append_right _ (List.mem_cons_self ..))
  rw [result_evalBool Host.bundled hsubst (trim_atLeastText n k) hblank, Host.bundled_atLeast hn hk]
  rfl

/-- A condition that starts with a reference into which nothing has been put does not hold. -/
theorem Phrase.evalBool_percent {cs : List Char} (hsubst : subst text = String.ofList ('%' :: cs))
    (htrim : trim ('%' :: cs) = '%' :: cs) (hblank : ' ' ∈ cs) :
    ((Phrase.text text).evalBool Host.bundled subst).result = false := by
  obtain ⟨e, he⟩ := Host.bundled_percent cs
  rw [result_evalBool Host.bundled hsubst htrim (List.mem_cons_of_mem _ hblank), he]

end StreamScript
