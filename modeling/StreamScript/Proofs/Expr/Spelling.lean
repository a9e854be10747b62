import StreamScript.Expr.Lexer
import StreamScript.Proofs.Numerals

/-!
# Writing tokens down

Tokens that are written down with single blanks between them are read back as they
were (`tokenize_spell`).  A blank ends every token, so that each can be looked at by
itself (`lexeme_spelling`): a number is read up to the blank, a word as well, and a
string up to its closing quote, since quotes in it are escaped.

Not every token has a text.  A word that holds a blank or an operator would be read
as several tokens, and a backslash in a string would not be read as one.
-/

namespace StreamScript

open Text Number

/-! ## Words and strings -/

namespace Token

/-- A string with its quotes escaped. -/
def escaped (cs : List Char) : List Char :=
  cs.flatMap fun c => if c = '"' then ['\\', '"'] else [c]

theorem readString?_of_plain {c : Char} (hquote : c ≠ '"') (hslash : c ≠ '\\') (rest : List Char) :
    readString? (c :: rest) = (readString? rest).map fun (s, more) => (c :: s, more) := by
  rw [readString?.eq_def]
  dsimp only
  rw [if_neg hquote, if_neg hslash]

theorem readString?_of_escape (d : Char) (rest : List Char) :
    readString? ('\\' :: d :: rest) = (readString? rest).map fun (s, more) =>
      (if d = '"' then d :: s else '\\' :: d :: s, more) := by
  rw [readString?.eq_def]
  rfl

/-! A backslash takes the next character with it, and an escaped quote stands for a quote. -/

section Escaped

variable {c d : Char} {cs rest : List Char}

theorem escaped_cons (c : Char) (cs : List Char) :
    escaped (c :: cs) = (if c = '"' then ['\\', '"'] else [c]) ++ escaped cs :=
  List.flatMap_cons

theorem readString?_escaped_cons (hc : c ≠ '\\') (cs rest : List Char) :
    readString? (escaped (c :: cs) ++ rest) =
      (readString? (escaped cs ++ rest)).map fun (s, more) => (c :: s, more) := by
  by_cases hquote : c = '"'
  · subst hquote
    have htext : escaped ('"' :: cs) ++ rest = '\\' :: '"' :: (escaped cs ++ rest) := rfl
    rw [htext, readString?_of_escape]
    rfl
  · have htext : escaped (c :: cs) ++ rest = c :: (escaped cs ++ rest) := by
      rw [escaped_cons, if_neg hquote]
      rfl
    rw [htext, readString?_of_plain hquote hc]

theorem readString?_escaped_slash (hd : d ≠ '"') (cs rest : List Char) :
    readString? (escaped ('\\' :: d :: cs) ++ rest) =
      (readString? (escaped cs ++ rest)).map fun (s, more) => ('\\' :: d :: s, more) := by
  have htext : escaped ('\\' :: d :: cs) ++ rest = '\\' :: d :: (escaped cs ++ rest) := by
    rw [escaped_cons, escaped_cons, if_neg (by decide), if_neg hd]
    rfl
  rw [htext, readString?_of_escape]
  simp only [if_neg hd]

/-- Whether no backslash takes a quote, or the end of the text, when each takes the next character
with it. -/
def sparesQuotes : List Char → Bool
  | [] => true
  | c :: rest =>
      if c = '\\' then
        match rest with
        | [] => false
        | d :: rest => d != '"' && sparesQuotes rest
      else sparesQuotes rest

theorem sparesQuotes_of_not_mem (h : '\\' ∉ cs) : sparesQuotes cs = true := by
  induction cs with
  | nil => rfl
  | cons c cs ih =>
    obtain ⟨hc, hcs⟩ := not_or.mp (fun hmem => h (List.mem_cons.mpr hmem))
    rw [sparesQuotes.eq_def]
    exact (if_neg (Ne.symm hc)).trans (ih hcs)

/-- A string is read back up to its closing quote. -/
theorem readString?_escaped (h : sparesQuotes cs = true) (rest : List Char) :
    readString? (escaped cs ++ '"' :: rest) = some (cs, rest) := by
  fun_induction sparesQuotes cs with
  | case1 => rw [escaped, List.flatMap_nil, List.nil_append, readString?.eq_def]; rfl
  | case2 => cases h
  | case3 d cs ih =>
    rw [Bool.and_eq_true, bne_iff_ne] at h
    rw [readString?_escaped_slash h.1, ih h.2]
    rfl
  | case4 c cs hc ih =>
    rw [readString?_escaped_cons hc, ih h]
    rfl

end Escaped

/-- What stands behind a token: nothing, or a blank. -/
def Ends (rest : List Char) : Prop :=
  ∀ c, rest.head? = some c → c = ' '

theorem isOperatorChar_of_isAlpha {c : Char} (h : c.isAlpha = true) : isOperatorChar c = false := by
  have hnone : ("+-*/%!=<>(),\"".toList.any Char.isAlpha) = false := by decide
  rw [isOperatorChar, List.contains_eq_any_beq, List.any_eq_false]
  rintro d hd heq
  obtain rfl := beq_iff_eq.mp heq
  exact List.any_eq_false.mp hnone _ hd h

theorem takeWord_of_ends {rest : List Char} (h : Ends rest) : takeWord true rest = ([], rest) := by
  cases rest with
  | nil => rfl
  | cons c rest =>
    obtain rfl := h c rfl
    rfl

/-- A word is read up to what cannot belong to it. -/
theorem takeWord_append {cs rest : List Char} (h : ∀ c ∈ cs, c.isAlpha = true)
    (hrest : takeWord true rest = ([], rest)) : takeWord true (cs ++ rest) = (cs, rest) := by
  induction cs with
  | nil => exact hrest
  | cons c cs ih =>
    obtain ⟨hc, hcs⟩ := List.forall_mem_cons.mp h
    have hne (d : Char) (hd : d.isAlpha = false) : (c == d) = false :=
      beq_false_of_ne (ne_of_isAlpha hc hd)
    rw [List.cons_append, takeWord]
    dsimp only
    rw [isBlank_of_isAlpha hc, isOperatorChar_of_isAlpha hc, hne '&' (by decide),
      hne '|' (by decide), ih hcs]
    rfl

/-! ## Tokens -/

/-- Whether a token has a text from which it can be read. -/
def isSpellable : Token → Bool
  | .num (.int n) => decide (0 ≤ n.toInt)
  | .num (.real _) => false
  | .str s => !s.toList.contains '\\'
  | .word s => !s.toList.isEmpty && s.toList.all Char.isAlpha
  | _ => true

/-- How a token is written.  Equality and its negation can be written in two ways. -/
def spelling (short : Bool) : Token → List Char
  | .num n => n.render.toList
  | .str s => '"' :: (escaped s.toList ++ ['"'])
  | .word s => s.toList
  | .plus => ['+']
  | .minus => ['-']
  | .star => ['*']
  | .slash => ['/']
  | .percent => ['%']
  | .bang => ['!']
  | .eq => if short then ['='] else ['=', '=']
  | .ne => if short then ['<', '>'] else ['!', '=']
  | .lt => ['<']
  | .le => ['<', '=']
  | .gt => ['>']
  | .ge => ['>', '=']
  | .and => ['&', '&']
  | .or => ['|', '|']
  | .comma => [',']
  | .lparen => ['(']
  | .rparen => [')']

/-- Tokens with single blanks between them. -/
def spell (short : Bool) (ts : List Token) : List Char :=
  [' '].intercalate (ts.map (spelling short))

theorem ofNumberText_natText {n : Int64} (h : 0 ≤ n.toInt) :
    ofNumberText (natText n.toInt.natAbs) = .num (.int n) := by
  have htrim : trim (natText n.toInt.natAbs) = natText n.toInt.natAbs :=
    trim_of_isDigit fun _ => isDigit_of_mem_natText
  have hread : Num.read? (natText n.toInt.natAbs) = some (.int n) := by
    rw [Num.read?, htrim, readInt64?_natText h]
  rw [ofNumberText, hread]

theorem isNumberChar_of_isDigit {c : Char} (h : c.isDigit = true) : isNumberChar c = true := by
  rw [isNumberChar, Char.isAlphanum, h, Bool.or_true, Bool.true_or, Bool.true_or]

/-- Digits are read up to the blank or the end behind them. -/
theorem lexeme_natText (n : Nat) {rest : List Char} (hrest : Ends rest) :
    ∃ c cs, natText n ++ rest = c :: cs ∧ isBlank c = false ∧
      lexeme c cs = .ok (ofNumberText (natText n), rest) := by
  have hdigit : ∀ d ∈ natText n, d.isDigit = true := fun d => isDigit_of_mem_natText
  have hne := natText_ne_nil n
  generalize natText n = digits at hdigit hne
  obtain ⟨c, cs, rfl⟩ := List.exists_cons_of_ne_nil hne
  obtain ⟨hc, hdigits⟩ := List.forall_mem_cons.mp hdigit
  refine ⟨c, cs ++ rest, List.cons_append, isBlank_of_isDigit hc, ?_⟩
  have hnumber : ∀ d ∈ cs, isNumberChar d = true := fun d hd =>
    isNumberChar_of_isDigit (hdigits d hd)
  have htake : rest.takeWhile isNumberChar = [] ∧ rest.dropWhile isNumberChar = rest := by
    cases rest with
    | nil => exact ⟨rfl, rfl⟩
    | cons d rest =>
      obtain rfl := hrest d rfl
      exact ⟨rfl, rfl⟩
  unfold lexeme
  rw [if_pos hc, List.takeWhile_append_of_pos hnumber, List.dropWhile_append_of_pos hnumber,
    htake.1, htake.2, List.append_nil]

theorem lexeme_num {n : Int64} (h : 0 ≤ n.toInt) {rest : List Char} (hrest : Ends rest) :
    ∃ c cs, (Num.int n).render.toList ++ rest = c :: cs ∧ isBlank c = false ∧
      lexeme c cs = .ok (.num (.int n), rest) := by
  have hrender : (Num.int n).render.toList = natText n.toInt.natAbs := by
    rw [Num.render, String.toList_ofList, intText, if_neg (Int.not_lt.mpr h)]
  rw [hrender, ← ofNumberText_natText h]
  exact lexeme_natText n.toInt.natAbs hrest

theorem lexeme_word {s : String} (hne : s.toList ≠ []) (h : ∀ c ∈ s.toList, c.isAlpha = true)
    {rest : List Char} (hrest : takeWord true rest = ([], rest)) :
    ∃ c cs, s.toList ++ rest = c :: cs ∧ isBlank c = false ∧
      lexeme c cs = .ok (.word s, rest) := by
  obtain ⟨c, cs, hcs⟩ := List.exists_cons_of_ne_nil hne
  rw [hcs] at h
  obtain ⟨hc, hletters⟩ := List.forall_mem_cons.mp h
  refine ⟨c, cs ++ rest, by rw [hcs, List.cons_append], isBlank_of_isAlpha hc, ?_⟩
  have hdigit : ¬ c.isDigit = true := by
    intro hdigit
    have hle : c.toNat ≤ 57 := (Char.isDigit_iff_toNat.mp hdigit).2
    have hge := (toNat_of_isAlpha hc).1
    omega
  unfold lexeme
  rw [if_neg hdigit]
  split
  case h_21 =>
    rw [takeWord_append hletters hrest]
    dsimp only
    rw [← hcs, String.ofList_toList]
  all_goals exact absurd hc (by decide)

theorem lexeme_quote {cs s rest : List Char} (h : readString? cs = some (s, rest)) :
    lexeme '"' cs = .ok (.str (String.ofList s), rest) := by
  unfold lexeme
  rw [if_neg (by decide)]
  simp only [h]

/-- **A token is read back from its text**, wherever a blank or the end follows. -/
theorem lexeme_spelling (short : Bool) {t : Token} (h : t.isSpellable = true) {rest : List Char}
    (hrest : Ends rest) : ∃ c cs, t.spelling short ++ rest = c :: cs ∧ isBlank c = false ∧
      lexeme c cs = .ok (t, rest) := by
  -- an operator may be the beginning of a longer one, but not in front of a blank
  have hend : rest = [] ∨ ∃ more, rest = ' ' :: more := by
    cases rest with
    | nil => exact .inl rfl
    | cons c more =>
      obtain rfl := hrest c rfl
      exact .inr ⟨more, rfl⟩
  cases t with
  | num n =>
    cases n with
    | int n => exact lexeme_num (of_decide_eq_true h) hrest
    | real x => cases h
  | str s =>
    have hslash : '\\' ∉ s.toList := by simpa [isSpellable] using h
    refine ⟨'"', escaped s.toList ++ '"' :: rest, by simp [spelling], by decide, ?_⟩
    rw [lexeme_quote (readString?_escaped (sparesQuotes_of_not_mem hslash) rest),
      String.ofList_toList]
  | word s =>
    rw [isSpellable, Bool.and_eq_true, Bool.not_eq_true'] at h
    exact lexeme_word (List.isEmpty_eq_false_iff.mp h.1) (List.all_eq_true.mp h.2)
      (takeWord_of_ends hrest)
  | eq | ne =>
    cases short <;> obtain rfl | ⟨more, rfl⟩ := hend <;> exact ⟨_, _, rfl, by decide, rfl⟩
  | _ => obtain rfl | ⟨more, rfl⟩ := hend <;> exact ⟨_, _, rfl, by decide, rfl⟩

/-! ## Texts -/

theorem tokenize_of_blank {cs : List Char} (h : trimStart cs = []) : tokenize cs = .ok [] := by
  rw [tokenize]
  split
  · rfl
  · next heq => cases h.symm.trans heq

theorem tokenize_of_lexeme {c : Char} {cs rest more : List Char} {t : Token}
    (hcs : trimStart cs = c :: rest) (h : lexeme c rest = .ok (t, more)) :
    tokenize cs = (tokenize more).map (t :: ·) := by
  rw [tokenize]
  split
  · next heq => cases hcs.symm.trans heq
  · next heq =>
    cases hcs.symm.trans heq
    split
    · next heq => cases h.symm.trans heq
    · next heq => cases h.symm.trans heq; rfl

theorem tokenize_of_lexeme_error {c : Char} {cs rest : List Char} {e : ExprError}
    (hcs : trimStart cs = c :: rest) (h : lexeme c rest = .error e) : tokenize cs = .error e := by
  rw [tokenize]
  split
  · next heq => cases hcs.symm.trans heq
  · next heq =>
    cases hcs.symm.trans heq
    split
    · next heq => cases h.symm.trans heq; rfl
    · next heq => cases h.symm.trans heq

/-- **Tokens with single blanks between them are read back.**  Blanks in front of them do not
matter, which is what the induction needs. -/
theorem tokenize_spell (short : Bool) {ts : List Token} (h : ∀ t ∈ ts, t.isSpellable = true)
    {blanks : List Char} (hblanks : ∀ c ∈ blanks, isBlank c = true) :
    tokenize (blanks ++ spell short ts) = .ok ts := by
  induction ts generalizing blanks with
  | nil =>
    refine tokenize_of_blank ?_
    rw [Statement.trimStart_append hblanks]
    rfl
  | cons t ts ih =>
    obtain ⟨ht, hts⟩ := List.forall_mem_cons.mp h
    obtain ⟨rest, hspell, hrest, hread⟩ : ∃ rest, spell short (t :: ts) = t.spelling short ++ rest ∧
        Ends rest ∧ tokenize rest = .ok ts := by
      cases ts with
      | nil => exact ⟨[], by simp [spell], nofun, tokenize_of_blank rfl⟩
      | cons u ts =>
        refine ⟨[' '] ++ spell short (u :: ts), ?_, ?_,
          ih hts (List.forall_mem_singleton.mpr (by decide))⟩
        · rw [spell, List.map_cons, List.map_cons, List.intercalate_cons_cons, List.append_assoc]
          rfl
        · exact fun c hc => (Option.some.inj hc).symm
    obtain ⟨c, cs, hcs, hblank, hlexeme⟩ := lexeme_spelling short ht hrest
    have htrim : trimStart (blanks ++ spell short (t :: ts)) = c :: cs := by
      rw [Statement.trimStart_append hblanks, hspell, hcs]
      exact Statement.trimStart_eq_self fun d hd => Option.some.inj hd ▸ hblank
    rw [tokenize_of_lexeme htrim hlexeme, hread]
    rfl

end Token

end StreamScript
