import StreamScript.Expr.Tree
import StreamScript.Proofs.Expr.Spelling

/-!
# Expressions come back from their text

An expression is written with parentheses only where its operators would else bind
otherwise: around an operand whose operator binds less tightly than its place asks
for.  Operators group to the left, so the place to the right of an operator asks
for one level more than the place to its left.  Reading such a text gives the
expression back (`parse_print`).

Reading goes down through the levels one by one and comes back through a loop at
each.  An operand that opens with a long chain of operators is read by the loop at
the level of these operators, so what is read is not told by the text of an operand
alone, but by the operand with which a loop goes on (`Reads.loop`).  Whether the
loops at tighter levels stop is decided by the token behind (`StopsAt`).
-/

namespace StreamScript

open Text

/-! ## Writing an expression down -/

/-- The token of an operator with two operands. -/
def BinOp.token : BinOp → Token
  | .add => .plus
  | .sub => .minus
  | .mul => .star
  | .div => .slash
  | .rem => .percent
  | .eq => .eq
  | .ne => .ne
  | .lt => .lt
  | .le => .le
  | .gt => .gt
  | .ge => .ge
  | .and => .and
  | .or => .or

@[simp] theorem BinOp.ofToken?_token (op : BinOp) : ofToken? op.token = some op := by
  cases op <;> rfl

theorem BinOp.level_lt (op : BinOp) : op.level < Expr.signLevel := by
  cases op <;> decide

/-- The token of an operator with one operand. -/
def UnaryOp.token : UnaryOp → Token
  | .neg => .minus
  | .not => .bang

/-- The token of a literal. -/
def Value.token : Value → Token
  | .bool b => .word (boolText b)
  | .num n => .num n
  | .text s => .str s

namespace Expr

mutual

/-- Whether an expression can be written down: its numbers are whole and not negative, its strings
hold no backslashes, and it calls functions that exist. -/
def isPrintable : Expr → Bool
  | .literal v => v.token.isSpellable
  | .unary _ arg => arg.isPrintable
  | .binary _ lhs rhs => lhs.isPrintable && rhs.isPrintable
  | .call name args => Builtin.isName name && arePrintable args

/-- The same for several expressions. -/
def arePrintable : List Expr → Bool
  | [] => true
  | e :: es => e.isPrintable && arePrintable es

end

mutual

/-- The tokens of an expression in a place that asks for operators of a level or tighter. -/
def tokens (level : Nat) : Expr → List Token
  | .literal v => [v.token]
  | .unary op arg => op.token :: arg.tokens signLevel
  | .binary op lhs rhs =>
      let inner := lhs.tokens op.level ++ op.token :: rhs.tokens (op.level + 1)
      if op.level < level then .lparen :: (inner ++ [.rparen]) else inner
  | .call name args => .word name :: .lparen :: ((moreTokens args).tail ++ [.rparen])

/-- The tokens of several expressions, each behind a comma. -/
def moreTokens : List Expr → List Token
  | [] => []
  | e :: es => .comma :: (e.tokens 0 ++ moreTokens es)

end

/-- The text of an expression. -/
def print (short : Bool) (e : Expr) : String :=
  String.ofList (Token.spell short (e.tokens 0))

/-! ### Its tokens have texts -/

/-- The names of functions are made of letters. -/
theorem isSpellable_of_isName {name : String} (h : Builtin.isName name = true) :
    (Token.word name).isSpellable = true := by
  have hnames : ∀ entry ∈ Builtin.names, entry.1.toList ≠ [] ∧
      entry.1.toList.all Char.isLower = true := by decide
  obtain ⟨f, hf⟩ := Option.isSome_iff_exists.mp h
  obtain ⟨front, back, hentries, -⟩ := List.lookup_eq_some_iff.mp hf
  obtain ⟨hne, hlower⟩ := hnames (lowered name, f) (by rw [hentries]; simp)
  rw [lowered, String.toList_ofList] at hne hlower
  rw [List.all_eq_true] at hlower
  rw [Token.isSpellable, Bool.and_eq_true, Bool.not_eq_true', List.isEmpty_eq_false_iff,
    List.all_eq_true]
  refine ⟨?_, fun c hc => isAlpha_of_isLower_toLower (hlower _ (List.mem_map_of_mem hc))⟩
  rintro hnil
  rw [hnil] at hne
  exact hne rfl

mutual

theorem isSpellable_of_mem_tokens : (e : Expr) → e.isPrintable = true → (level : Nat) →
    ∀ t ∈ e.tokens level, t.isSpellable = true
  | .literal v, h, level => by
    rw [tokens]
    exact List.forall_mem_singleton.mpr h
  | .unary op arg, h, level => by
    rw [tokens]
    exact List.forall_mem_cons.mpr
      ⟨by cases op <;> rfl, isSpellable_of_mem_tokens arg h signLevel⟩
  | .binary op lhs rhs, h, level => by
    rw [isPrintable, Bool.and_eq_true] at h
    have hinner : ∀ t ∈ lhs.tokens op.level ++ op.token :: rhs.tokens (op.level + 1),
        t.isSpellable = true :=
      List.forall_mem_append.mpr ⟨isSpellable_of_mem_tokens lhs h.1 _,
        List.forall_mem_cons.mpr ⟨by cases op <;> rfl, isSpellable_of_mem_tokens rhs h.2 _⟩⟩
    rw [tokens]
    split
    · exact List.forall_mem_cons.mpr
        ⟨rfl, List.forall_mem_append.mpr ⟨hinner, List.forall_mem_singleton.mpr rfl⟩⟩
    · exact hinner
  | .call name args, h, level => by
    rw [isPrintable, Bool.and_eq_true] at h
    have hargs := isSpellable_of_mem_moreTokens args h.2
    rw [tokens]
    refine List.forall_mem_cons.mpr ⟨isSpellable_of_isName h.1, List.forall_mem_cons.mpr ⟨rfl, ?_⟩⟩
    exact List.forall_mem_append.mpr
      ⟨fun t ht => hargs t (List.mem_of_mem_tail ht), List.forall_mem_singleton.mpr rfl⟩

theorem isSpellable_of_mem_moreTokens : (es : List Expr) → arePrintable es = true →
    ∀ t ∈ moreTokens es, t.isSpellable = true
  | [], _ => nofun
  | e :: es, h => by
    rw [arePrintable, Bool.and_eq_true] at h
    rw [moreTokens]
    exact List.forall_mem_cons.mpr ⟨rfl, List.forall_mem_append.mpr
      ⟨isSpellable_of_mem_tokens e h.1 0, isSpellable_of_mem_moreTokens es h.2⟩⟩

end

/-! ## Reading it -/

/-- What may stand behind an operand in a place of a level: no operator of this level or a tighter
one, and no word. -/
def StopsAt (level : Nat) (rest : List Token) : Prop :=
  ∀ t, rest.head? = some t →
    (∀ op, BinOp.ofToken? t = some op → op.level < level) ∧ ∀ word, t ≠ .word word

/-- An expression is read in a place of a level: the reader gives it back and leaves the rest. -/
def ReadAt (level : Nat) (e : Expr) : Prop :=
  ∀ fuel rest, StopsAt level rest → 10 * (e.tokens level).length + (signLevel + 1 - level) ≤ fuel →
    readLevel fuel level (e.tokens level ++ rest) = .ok (e, rest)

/-- An expression is read by the loop of a level: after it, the loop goes on with what follows. -/
def LoopAt (level : Nat) (e : Expr) : Prop :=
  ∀ fuel rest, StopsAt (level + 1) rest →
    10 * (e.tokens level).length + (signLevel + 1 - level) ≤ fuel →
    ∃ left, fuel ≤ left + (e.tokens level).length ∧
      readLevel fuel level (e.tokens level ++ rest) = readTail left level e rest

variable {e lhs rhs : Expr} {level : Nat} {rest : List Token}

theorem StopsAt.mono {level' : Nat} (h : StopsAt level rest) (hle : level ≤ level') :
    StopsAt level' rest := fun t ht =>
  ⟨fun op hop => Nat.lt_of_lt_of_le ((h t ht).1 op hop) hle, (h t ht).2⟩

/-- An expression does not start with a parenthesis that closes. -/
theorem exists_tokens : (e : Expr) → (level : Nat) →
    ∃ t ts, e.tokens level = t :: ts ∧ t ≠ .rparen
  | .literal v, level => ⟨v.token, [], by rw [tokens], by cases v <;> exact nofun⟩
  | .unary op arg, level => ⟨op.token, _, by rw [tokens], by cases op <;> exact nofun⟩
  | .binary op lhs rhs, level => by
    obtain ⟨t, ts, hlhs, ht⟩ := exists_tokens lhs op.level
    rw [tokens]
    split
    · exact ⟨.lparen, _, rfl, nofun⟩
    · exact ⟨t, _, by rw [hlhs, List.cons_append], ht⟩
  | .call name args, level => ⟨.word name, _, by rw [tokens], nofun⟩

theorem length_tokens_pos (e : Expr) (level : Nat) : 0 < (e.tokens level).length := by
  obtain ⟨t, ts, htokens, -⟩ := e.exists_tokens level
  rw [htokens]
  exact Nat.succ_pos _

/-- A loop stops in front of what may stand behind it. -/
theorem readTail_of_stopsAt {fuel : Nat} (h : StopsAt level rest) (hfuel : 0 < fuel) :
    readTail fuel level e rest = .ok (e, rest) := by
  obtain ⟨fuel, rfl⟩ := Nat.exists_eq_add_of_le' hfuel
  cases rest with
  | nil => rw [readTail]; exact Nat.noConfusion
  | cons t rest =>
    rw [readTail]
    split
    · next op hop =>
      have hlt := (h t rfl).1 op hop
      rw [if_neg (Nat.ne_of_lt hlt)]
    · rfl

/-- A level without operators of its own in an expression passes it on to the next. -/
theorem LoopAt.of_readAt (hlevel : level < signLevel)
    (htokens : e.tokens level = e.tokens (level + 1)) (h : ReadAt (level + 1) e) :
    LoopAt level e := by
  intro fuel rest hrest hfuel
  have hpos := e.length_tokens_pos level
  obtain ⟨left, rfl⟩ := Nat.exists_eq_add_of_le' (Nat.le_trans (by omega : 1 ≤ _) hfuel)
  refine ⟨left, by omega, ?_⟩
  rw [readLevel, if_pos hlevel, htokens, h left rest hrest (by rw [← htokens]; omega)]
  rfl

/-- An expression that a loop reads is read when the loop stops behind it. -/
theorem ReadAt.of_loopAt (hlevel : level < signLevel) (h : LoopAt level e) : ReadAt level e := by
  intro fuel rest hrest hfuel
  obtain ⟨left, hleft, hread⟩ := h fuel rest (hrest.mono (Nat.le_succ level)) hfuel
  rw [hread, readTail_of_stopsAt hrest (by omega)]

/-- What is read at a level is read at looser ones, if it is written in the same way there. -/
theorem ReadAt.down {low high : Nat} (hhigh : high ≤ signLevel)
    (htokens : ∀ level, low ≤ level → level < high → e.tokens level = e.tokens (level + 1))
    (h : ReadAt high e) (hlow : low ≤ level) (hle : level ≤ high) : ReadAt level e := by
  induction hn : high - level generalizing level with
  | zero =>
    obtain rfl : level = high := by omega
    exact h
  | succ n ih =>
    have hsucc : ReadAt (level + 1) e := ih (by omega) (by omega) (by omega)
    exact .of_loopAt (by omega) (.of_readAt (by omega) (htokens level hlow (by omega)) hsucc)

/-- An expression is read in every place. -/
structure Reads (e : Expr) : Prop where
  readAt {level : Nat} (h : level ≤ signLevel) : ReadAt level e
  loopAt {level : Nat} (h : level < signLevel) : LoopAt level e

theorem readSigned_eq (fuel : Nat) (ts : List Token) :
    readSigned fuel ts = readLevel (fuel + 1) signLevel ts := by
  rw [readLevel, if_neg (Nat.lt_irrefl _)]

theorem Reads.signed (h : Reads e) (fuel : Nat) (hrest : StopsAt signLevel rest)
    (hfuel : 10 * (e.tokens signLevel).length ≤ fuel) :
    readSigned fuel (e.tokens signLevel ++ rest) = .ok (e, rest) := by
  rw [readSigned_eq]
  exact h.readAt (Nat.le_refl _) _ rest hrest (by omega)

/-- An expression without an operator between two operands is read in every place if it is read as
an operand. -/
theorem Reads.of_signed (htokens : ∀ level, e.tokens level = e.tokens signLevel)
    (h : ∀ fuel rest, StopsAt signLevel rest → 10 * (e.tokens signLevel).length ≤ fuel →
      readSigned fuel (e.tokens signLevel ++ rest) = .ok (e, rest)) : Reads e := by
  have hsign : ReadAt signLevel e := by
    intro fuel rest hrest hfuel
    obtain ⟨fuel, rfl⟩ := Nat.exists_eq_add_of_le' (Nat.le_trans (by omega : 1 ≤ _) hfuel)
    rw [← readSigned_eq]
    exact h fuel rest hrest (by omega)
  have hsame (level : Nat) : e.tokens level = e.tokens (level + 1) := by
    rw [htokens level, htokens (level + 1)]
  have hread {level : Nat} (hle : level ≤ signLevel) : ReadAt level e :=
    hsign.down (Nat.le_refl _) (fun level _ _ => hsame level) (Nat.zero_le level) hle
  exact ⟨hread, fun hlt => .of_readAt hlt (hsame _) (hread hlt)⟩

/-! ### Literals and signs -/

theorem takeWords_of_stopsAt (h : StopsAt level rest) : takeWords rest = ([], rest) := by
  cases rest with
  | nil => rfl
  | cons t rest =>
    cases t with
    | word word => exact absurd rfl ((h _ rfl).2 word)
    | _ => rfl

theorem reads_literal (v : Value) : Reads (.literal v) := by
  refine .of_signed (fun level => by rw [tokens, tokens]) fun fuel rest hrest hfuel => ?_
  rw [tokens, List.length_singleton] at hfuel
  obtain ⟨fuel, rfl⟩ := Nat.exists_eq_add_of_le' (by omega : 1 ≤ fuel)
  rw [tokens, List.singleton_append]
  cases v with
  | num n => rfl
  | text s => rfl
  | bool b =>
    have hname : Builtin.isName (Value.boolText b) = false := by cases b <;> decide
    have hvalue : wordValue (joinWords (Value.boolText b) []) = .bool b := by cases b <;> decide
    rw [Value.token, readSigned]
    dsimp only
    rw [hname, Bool.false_and, if_neg Bool.false_ne_true, takeWords_of_stopsAt hrest]
    dsimp only
    rw [hvalue]

theorem reads_unary {op : UnaryOp} (h : Reads e) : Reads (.unary op e) := by
  refine .of_signed (fun level => by rw [tokens, tokens]) fun fuel rest hrest hfuel => ?_
  rw [tokens, List.length_cons] at hfuel
  obtain ⟨fuel, rfl⟩ := Nat.exists_eq_add_of_le' (by omega : 1 ≤ fuel)
  rw [tokens, List.cons_append]
  have harg := h.signed fuel hrest (by omega)
  cases op <;> (rw [UnaryOp.token, readSigned]; dsimp only; rw [harg]; rfl)

/-! ### Operators with two operands -/

section Binary

variable {op : BinOp}

theorem tokens_binary_of_le (h : level ≤ op.level) :
    (binary op lhs rhs).tokens level =
      lhs.tokens op.level ++ op.token :: rhs.tokens (op.level + 1) := by
  rw [tokens, if_neg (Nat.not_lt.mpr h)]

theorem tokens_binary_of_lt (h : op.level < level) :
    (binary op lhs rhs).tokens level =
      .lparen :: ((binary op lhs rhs).tokens 0 ++ [.rparen]) := by
  rw [tokens_binary_of_le (Nat.zero_le _), tokens, if_pos h]

theorem tokens_binary_succ (h : level ≠ op.level) :
    (binary op lhs rhs).tokens level = (binary op lhs rhs).tokens (level + 1) := by
  obtain hlt | hgt := Nat.lt_or_gt_of_ne h
  · rw [tokens_binary_of_le (Nat.le_of_lt hlt), tokens_binary_of_le hlt]
  · rw [tokens_binary_of_lt hgt, tokens_binary_of_lt (Nat.lt_succ_of_lt hgt)]

theorem stopsAt_token (rest : List Token) : StopsAt (op.level + 1) (op.token :: rest) := by
  intro t ht
  obtain rfl := Option.some.inj ht
  refine ⟨fun op' hop => ?_, fun word hword => ?_⟩
  · rw [BinOp.ofToken?_token] at hop
    obtain rfl := Option.some.inj hop
    exact Nat.lt_succ_self _
  · cases op <;> cases hword

/-- The loop of its own level reads an expression: first its left operand, then itself. -/
theorem loopAt_binary (hlhs : LoopAt op.level lhs) (hrhs : ReadAt (op.level + 1) rhs) :
    LoopAt op.level (.binary op lhs rhs) := by
  intro fuel rest hrest hfuel
  have hlevel := op.level_lt
  rw [tokens_binary_of_le (Nat.le_refl _)] at hfuel ⊢
  rw [List.length_append, List.length_cons] at hfuel ⊢
  rw [List.append_assoc, List.cons_append]
  obtain ⟨left, hleft, hread⟩ := hlhs fuel (op.token :: (rhs.tokens (op.level + 1) ++ rest))
    (stopsAt_token _) (by omega)
  obtain ⟨left, rfl⟩ := Nat.exists_eq_add_of_le' (by omega : 1 ≤ left)
  refine ⟨left, by omega, ?_⟩
  rw [hread, readTail, BinOp.ofToken?_token]
  dsimp only
  rw [if_pos rfl, hrhs left rest hrest (by omega)]
  rfl

theorem stopsAt_rparen (level : Nat) (rest : List Token) : StopsAt level (.rparen :: rest) := by
  intro t ht
  obtain rfl := Option.some.inj ht
  exact ⟨nofun, nofun⟩

/-- In parentheses an expression is an operand. -/
theorem ReadAt.readSigned_lparen {fuel : Nat} (h : ReadAt 0 e)
    (hfuel : 10 * (e.tokens 0).length + (signLevel + 1) < fuel) (rest : List Token) :
    readSigned fuel (.lparen :: (e.tokens 0 ++ .rparen :: rest)) = .ok (e, rest) := by
  obtain ⟨fuel, rfl⟩ := Nat.exists_eq_add_of_le' (by omega : 1 ≤ fuel)
  rw [readSigned]
  dsimp only
  rw [h fuel _ (stopsAt_rparen 0 rest) (by omega)]
  rfl

theorem reads_binary (hlhs : Reads lhs) (hrhs : Reads rhs) : Reads (.binary op lhs rhs) := by
  have hlevel := op.level_lt
  have hloop : LoopAt op.level (.binary op lhs rhs) :=
    loopAt_binary (hlhs.loopAt hlevel) (hrhs.readAt hlevel)
  -- without parentheses it is read at its own level, and so at looser ones
  have hlow {level : Nat} (hle : level ≤ op.level) : ReadAt level (.binary op lhs rhs) :=
    (ReadAt.of_loopAt hlevel hloop).down (Nat.le_of_lt hlevel)
      (fun level _ hlt => tokens_binary_succ (Nat.ne_of_lt hlt)) (Nat.zero_le level) hle
  -- in parentheses it is an operand, and so it is read at tighter levels
  have hsign : ReadAt signLevel (.binary op lhs rhs) := by
    intro fuel rest hrest hfuel
    have hsix : signLevel = 6 := rfl
    rw [tokens_binary_of_lt hlevel, List.length_cons, List.length_append,
      List.length_singleton] at hfuel
    obtain ⟨fuel, rfl⟩ := Nat.exists_eq_add_of_le' (by omega : 1 ≤ fuel)
    rw [tokens_binary_of_lt hlevel, ← readSigned_eq, List.cons_append, List.append_assoc,
      List.singleton_append]
    exact (hlow (Nat.zero_le _)).readSigned_lparen (by omega) rest
  have hhigh {level : Nat} (hlt : op.level < level) (hle : level ≤ signLevel) :
      ReadAt level (.binary op lhs rhs) :=
    hsign.down (Nat.le_refl _)
      (fun level hlow _ => tokens_binary_succ (Nat.ne_of_gt hlow)) hlt hle
  have hread {level : Nat} (hle : level ≤ signLevel) : ReadAt level (.binary op lhs rhs) := by
    obtain hle' | hlt := Nat.lt_or_ge op.level level |>.symm
    · exact hlow hle'
    · exact hhigh hlt hle
  refine ⟨hread, fun {level} hlt => ?_⟩
  by_cases heq : level = op.level
  · rw [heq]
    exact hloop
  · exact .of_readAt hlt (tokens_binary_succ heq) (hread hlt)

end Binary

/-! ### Calls -/

/-- Behind an argument stands a comma or the closing parenthesis. -/
theorem stopsAt_moreTokens (es : List Expr) (rest : List Token) :
    StopsAt 0 (moreTokens es ++ .rparen :: rest) := by
  cases es with
  | nil => exact stopsAt_rparen 0 rest
  | cons e es =>
    intro t ht
    rw [moreTokens] at ht
    obtain rfl := Option.some.inj ht
    exact ⟨nofun, nofun⟩

/-- The arguments behind the first are read one after another. -/
theorem readMore_moreTokens {es : List Expr} (h : ∀ e ∈ es, Reads e) {fuel : Nat}
    (done : List Expr) (rest : List Token) (hfuel : 10 * (moreTokens es).length < fuel) :
    readMore fuel done (moreTokens es ++ .rparen :: rest) = .ok (done.reverse ++ es, rest) := by
  induction es generalizing fuel done with
  | nil =>
    obtain ⟨fuel, rfl⟩ := Nat.exists_eq_add_of_le' (by omega : 1 ≤ fuel)
    rw [moreTokens, List.nil_append, List.append_nil]
    rfl
  | cons e es ih =>
    obtain ⟨he, hes⟩ := List.forall_mem_cons.mp h
    have hsix : signLevel = 6 := rfl
    rw [moreTokens, List.length_cons, List.length_append] at hfuel
    obtain ⟨fuel, rfl⟩ := Nat.exists_eq_add_of_le' (by omega : 1 ≤ fuel)
    have hread := he.readAt (Nat.zero_le _) fuel _ (stopsAt_moreTokens es rest) (by omega)
    have hmore := ih hes (e :: done) (by omega : 10 * (moreTokens es).length < fuel)
    rw [List.reverse_cons, List.append_assoc, List.singleton_append] at hmore
    rw [moreTokens, List.cons_append, List.append_assoc, readMore, hread]
    exact hmore

theorem readArguments_tokens {args : List Expr} (h : ∀ e ∈ args, Reads e) {fuel : Nat}
    (rest : List Token) (hfuel : 10 * (moreTokens args).length < fuel) :
    readArguments fuel ((moreTokens args).tail ++ .rparen :: rest) = .ok (args, rest) := by
  obtain ⟨fuel, rfl⟩ := Nat.exists_eq_add_of_le' (by omega : 1 ≤ fuel)
  cases args with
  | nil => rw [moreTokens]; rfl
  | cons e es =>
    obtain ⟨he, hes⟩ := List.forall_mem_cons.mp h
    have hsix : signLevel = 6 := rfl
    rw [moreTokens, List.length_cons, List.length_append] at hfuel
    have hread := he.readAt (Nat.zero_le _) fuel _ (stopsAt_moreTokens es rest) (by omega)
    have hmore := readMore_moreTokens hes [e] rest (by omega : _ < fuel)
    obtain ⟨t, ts, htokens, ht⟩ := e.exists_tokens 0
    rw [moreTokens, List.tail_cons, List.append_assoc]
    rw [readArguments, hread]
    · exact hmore
    · intro rest' heq
      rw [htokens] at heq
      exact ht (List.cons.inj heq).1

theorem reads_call {name : String} {args : List Expr} (hname : Builtin.isName name = true)
    (h : ∀ e ∈ args, Reads e) : Reads (.call name args) := by
  refine .of_signed (fun level => by rw [tokens, tokens]) fun fuel rest hrest hfuel => ?_
  have hlength : (moreTokens args).length ≤ (moreTokens args).tail.length + 1 := by
    rw [List.length_tail]
    omega
  rw [tokens, List.length_cons, List.length_cons, List.length_append,
    List.length_singleton] at hfuel
  obtain ⟨fuel, rfl⟩ := Nat.exists_eq_add_of_le' (by omega : 1 ≤ fuel)
  rw [tokens, List.cons_append, List.cons_append, List.append_assoc, List.singleton_append,
    readSigned]
  dsimp only
  rw [hname, List.head?_cons, beq_self_eq_true, Bool.and_true, if_pos rfl, List.tail_cons,
    readArguments_tokens h rest (by omega)]
  rfl

/-! ### In parentheses -/

/-- An operand is read at every level, whatever it is written like. -/
theorem readLevel_of_readSigned {ts : List Token} {least : Nat}
    (h : ∀ fuel, least ≤ fuel → readSigned fuel ts = .ok (e, rest)) (hrest : StopsAt 0 rest)
    (hlevel : level ≤ signLevel) {fuel : Nat} (hfuel : least + (signLevel + 1 - level) ≤ fuel) :
    readLevel fuel level ts = .ok (e, rest) := by
  have hsix : signLevel = 6 := rfl
  induction hn : signLevel - level generalizing level fuel with
  | zero =>
    obtain rfl : level = signLevel := by omega
    obtain ⟨fuel, rfl⟩ := Nat.exists_eq_add_of_le' (by omega : 1 ≤ fuel)
    rw [← readSigned_eq]
    exact h fuel (by omega)
  | succ n ih =>
    obtain ⟨fuel, rfl⟩ := Nat.exists_eq_add_of_le' (by omega : 1 ≤ fuel)
    rw [readLevel, if_pos (by omega), ih (by omega) (by omega) (by omega)]
    exact readTail_of_stopsAt (hrest.mono (Nat.zero_le _)) (by omega)

/-- A text that is one expression in parentheses is read as that expression. -/
theorem ofTokens_lparen (h : Reads e) :
    ofTokens (.lparen :: (e.tokens 0 ++ [.rparen])) = .ok e := by
  have hsix : signLevel = 6 := rfl
  have hread : readLevel (10 * ((Token.lparen :: (e.tokens 0 ++ [.rparen])).length + 1)) 0
      (.lparen :: (e.tokens 0 ++ [.rparen])) = .ok (e, []) := by
    have hoperand (fuel : Nat) (hfuel : 10 * (e.tokens 0).length + (signLevel + 2) ≤ fuel) :
        readSigned fuel (.lparen :: (e.tokens 0 ++ [.rparen])) = .ok (e, []) :=
      (h.readAt (Nat.zero_le _)).readSigned_lparen (by omega) []
    refine readLevel_of_readSigned hoperand nofun (Nat.zero_le _) ?_
    rw [List.length_cons, List.length_append, List.length_singleton]
    omega
  rw [ofTokens, hread]
  rfl

/-! ## Texts -/

/-- The tokens of an expression are read as that expression. -/
theorem Reads.ofTokens (h : Reads e) : Expr.ofTokens (e.tokens 0) = .ok e := by
  have hsix : signLevel = 6 := rfl
  have hread := h.readAt (Nat.zero_le _) (10 * ((e.tokens 0).length + 1)) [] nofun (by omega)
  rw [List.append_nil] at hread
  rw [Expr.ofTokens, hread]
  rfl

mutual

/-- **Every expression is read in every place**, one case for each kind of expression. -/
theorem reads : (e : Expr) → e.isPrintable = true → Reads e
  | .literal v, _ => reads_literal v
  | .unary op arg, h => by
    rw [isPrintable] at h
    exact reads_unary (reads arg h)
  | .binary op lhs rhs, h => by
    rw [isPrintable, Bool.and_eq_true] at h
    exact reads_binary (reads lhs h.1) (reads rhs h.2)
  | .call name args, h => by
    rw [isPrintable, Bool.and_eq_true] at h
    exact reads_call h.1 (readsAll args h.2)

theorem readsAll : (es : List Expr) → arePrintable es = true → ∀ e ∈ es, Reads e
  | [], _ => nofun
  | e :: es, h => by
    rw [arePrintable, Bool.and_eq_true] at h
    exact List.forall_mem_cons.mpr ⟨reads e h.1, readsAll es h.2⟩

end

/-- **Reading gives back what was written.**  Any expression of whole numbers that are not negative,
truth values, strings without backslashes, operators and calls is read back from its text, in which
tokens stand between single blanks and parentheses only where levels ask for them. -/
theorem parse_print (short : Bool) (e : Expr) (h : e.isPrintable = true) :
    parse (e.print short) = .ok e := by
  have htokens : Token.tokenize (Token.spell short (e.tokens 0)) = .ok (e.tokens 0) :=
    Token.tokenize_spell short (e.isSpellable_of_mem_tokens h 0) (List.forall_mem_nil _)
  rw [parse, print, String.toList_ofList, htokens]
  exact (reads e h).ofTokens

/-- An expression that needs parentheses for each of the two reasons. -/
def sample : Expr :=
  .binary .sub
    (.binary .mul (.binary .add (.literal (.num (.int 1))) (.literal (.num (.int 2))))
      (.unary .neg (.literal (.num (.int 3)))))
    (.binary .sub (.call "len" [.literal (.text "a\"b")]) (.literal (.bool true)))

theorem parse_print_sample :
    sample.isPrintable = true ∧
      sample.print true = "( 1 + 2 ) * - 3 - ( len ( \"a\\\"b\" ) - true )" ∧
      parse (sample.print true) = .ok sample := by
  have hprintable : sample.isPrintable = true := by decide +kernel
  exact ⟨hprintable, by decide +kernel, parse_print true sample hprintable⟩

end Expr

end StreamScript
