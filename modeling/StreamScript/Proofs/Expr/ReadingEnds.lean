import StreamScript.Proofs.Expr.Spelling
import StreamScript.Proofs.Words

/-!
# Reading tokens to the end

Whether reading ends is decided at the first character of each token.  A word is read up to a
character that cannot belong to it, and what cannot belong to it depends on the character, on the
one behind it and on whether the word has begun: were a word ever to stop at its first character,
it would be read for ever.  And a character that ends words starts an operator, unless it is one
that no operator starts with.

`readOne` takes these decisions one by one and has an outcome for each.  It never gives an empty
word, and the outcome that no operator starts with an operator character does not occur
(`readOne_cases`), so that one reading more than there are characters is enough for any text.

The one thing that can go wrong is a string without an end, and this can be told without reading
tokens.  A quote outside of strings always opens one, since no number, word or operator takes a
quote with it; so it is enough to follow the quotes and backslashes (`leavesOpen`).
`tokenize_total` is all of this together.
-/

namespace StreamScript
namespace Token

open Text

variable {cs rest more : List Char} {c : Char} {t : Token}

/-! ## Reading one token -/

/-- Why no token was read. -/
inductive Stop where
  /-- Nothing is left but blanks. -/
  | finished
  /-- A string has no end. -/
  | unclosed
  /-- No operator starts with this operator character. -/
  | stray (c : Char)
  deriving DecidableEq, Repr

/-- Reads what starts with an operator character. -/
def readOperator (c : Char) (rest : List Char) : Except Stop (Token × List Char) :=
  match c with
  | '"' =>
      match readString? rest with
      | some (s, more) => .ok (.str (String.ofList s), more)
      | none => .error .unclosed
  | '+' => .ok (.plus, rest)
  | '-' => .ok (.minus, rest)
  | '*' => .ok (.star, rest)
  | '/' => .ok (.slash, rest)
  | '%' => .ok (.percent, rest)
  | '(' => .ok (.lparen, rest)
  | ')' => .ok (.rparen, rest)
  | ',' => .ok (.comma, rest)
  | '!' =>
      match rest with
      | '=' :: more => .ok (.ne, more)
      | _ => .ok (.bang, rest)
  | '=' =>
      match rest with
      | '=' :: more => .ok (.eq, more)
      | _ => .ok (.eq, rest)
  | '<' =>
      match rest with
      | '=' :: more => .ok (.le, more)
      | '>' :: more => .ok (.ne, more)
      | _ => .ok (.lt, rest)
  | '>' =>
      match rest with
      | '=' :: more => .ok (.ge, more)
      | _ => .ok (.gt, rest)
  | c => .error (.stray c)

/-- Reads one token, behind blanks. -/
def readOne (cs : List Char) : Except Stop (Token × List Char) :=
  match trimStart cs with
  | [] => .error .finished
  | c :: rest =>
      if c.isDigit then
        .ok (ofNumberText ((c :: rest).takeWhile isNumberChar),
          (c :: rest).dropWhile isNumberChar)
      else if c = '&' ∧ rest.head? = some '&' then .ok (.and, rest.tail)
      else if c = '|' ∧ rest.head? = some '|' then .ok (.or, rest.tail)
      else if isOperatorChar c then readOperator c rest
      else
        let (letters, more) := takeWord false (c :: rest)
        .ok (.word (String.ofList letters), more)

/-- Reads tokens as long as there are any, in at most `n` readings: the tokens, and why there are no
more of them. -/
def readAll : Nat → List Char → Option (List Token × Stop)
  | 0, _ => none
  | n + 1, cs =>
      match readOne cs with
      | .error stop => some ([], stop)
      | .ok (t, more) => (readAll n more).map fun (ts, stop) => (t :: ts, stop)

/-! ## The same token as the reader takes -/

theorem not_doubled {d : Char} (h : ∀ more, c = d → rest = d :: more → False) :
    ¬ (c = d ∧ rest.head? = some d) := by
  rintro ⟨hc, hhead⟩
  obtain ⟨more, hmore⟩ := List.head?_eq_some_iff.mp hhead
  exact h more hc hmore

/-- A word takes its first character. -/
theorem takeWord_cons (hblank : isBlank c = false) (hop : isOperatorChar c = false)
    (hand : ¬ (c = '&' ∧ rest.head? = some '&')) (hor : ¬ (c = '|' ∧ rest.head? = some '|')) :
    takeWord false (c :: rest) = (c :: (takeWord true rest).1, (takeWord true rest).2) := by
  have hdoubled : ((c == '&' || c == '|') && rest.head? == some c) = false := by
    rw [Bool.eq_false_iff, ne_eq, Bool.and_eq_true, Bool.or_eq_true, beq_iff_eq, beq_iff_eq,
      beq_iff_eq]
    rintro ⟨rfl | rfl, hhead⟩
    · exact hand ⟨rfl, hhead⟩
    · exact hor ⟨rfl, hhead⟩
  rw [takeWord]
  dsimp only
  rw [hblank, hop, hdoubled]
  rfl

/-- The operator characters, one by one. -/
theorem mem_of_isOperatorChar (h : isOperatorChar c = true) :
    c ∈ ['+', '-', '*', '/', '%', '!', '=', '<', '>', '(', ')', ',', '"'] :=
  List.contains_iff_mem.mp h

theorem readOne_of_isOperatorChar (h : trimStart cs = c :: rest) (hop : isOperatorChar c = true) :
    readOne cs = readOperator c rest := by
  have hother : ['+', '-', '*', '/', '%', '!', '=', '<', '>', '(', ')', ',', '"'].all
      (fun d => !d.isDigit && d != '&' && d != '|') = true := rfl
  have hc := List.all_eq_true.mp hother c (mem_of_isOperatorChar hop)
  simp only [Bool.and_eq_true, Bool.not_eq_true', bne_iff_ne] at hc
  obtain ⟨⟨hdigit, hand⟩, hor⟩ := hc
  simp [readOne, h, hdigit, hand, hor, hop]

/-- The reader of an expression takes the same token, and fails where there is none. -/
theorem readOne_eq (h : trimStart cs = c :: rest) :
    readOne cs = (lexeme c rest).mapError fun _ => .unclosed := by
  fun_cases lexeme c rest
  case case1 hdigit more =>
    have hnumber := isNumberChar_of_isDigit hdigit
    rw [readOne, h]
    dsimp only
    rw [if_pos hdigit, List.takeWhile_cons_of_pos hnumber, List.dropWhile_cons_of_pos hnumber]
    rfl
  case case2 | case3 =>
    rw [readOne, h]
    rfl
  case case23 =>
    rename_i hdigit hword hand hor _ _ _ _ _
    have hop : isOperatorChar c = false := by
      rw [Bool.eq_false_iff]
      intro hop
      have hmem := mem_of_isOperatorChar hop
      simp_all
    have hblank := isBlank_of_trimStart_eq h
    have hand' := not_doubled hand
    have hor' := not_doubled hor
    rw [readOne, h]
    dsimp only
    rw [if_neg hdigit, if_neg hand', if_neg hor', if_neg (Bool.eq_false_iff.mp hop),
      takeWord_cons hblank hop hand' hor', hword]
    rfl
  case case4 hread | case5 hread =>
    rw [readOne_of_isOperatorChar h (by decide), readOperator, hread]
    rfl
  case case15 | case17 | case20 | case22 =>
    -- nothing that would make the operator longer is behind it
    rw [readOne_of_isOperatorChar h (by decide)]
    simp only [readOperator]
    rfl
  all_goals
    rw [readOne_of_isOperatorChar h (by decide)]
    rfl

/-! ## Quotes and backslashes -/

/-- Where a scan stands that heeds quotes and backslashes only. -/
inductive Quoting where
  | outside
  | inside
  /-- Inside of a string and behind a backslash. -/
  | escaped
  deriving DecidableEq, Repr

/-- Where the scan stands behind one more character. -/
def Quoting.next : Quoting → Char → Quoting
  | .outside, c => if c = '"' then .inside else .outside
  | .inside, c => if c = '"' then .outside else if c = '\\' then .escaped else .inside
  | .escaped, _ => .inside

/-- Whether a text ends inside of a string. -/
def leavesOpen (cs : List Char) : Bool :=
  cs.foldl Quoting.next .outside != .outside

theorem foldl_next_of_not_mem (h : '"' ∉ cs) : cs.foldl Quoting.next .outside = .outside := by
  induction cs with
  | nil => rfl
  | cons c cs ih =>
    obtain ⟨hc, hcs⟩ := not_or.mp (mt List.mem_cons.mpr h)
    rw [List.foldl_cons, Quoting.next, if_neg (Ne.symm hc), ih hcs]

/-- What holds no quote neither opens nor closes a string. -/
theorem leavesOpen_append (h : '"' ∉ cs) (more : List Char) :
    leavesOpen (cs ++ more) = leavesOpen more := by
  rw [leavesOpen, List.foldl_append, foldl_next_of_not_mem h, leavesOpen]

theorem leavesOpen_trimStart (cs : List Char) : leavesOpen (trimStart cs) = leavesOpen cs := by
  have hblank : '"' ∉ cs.takeWhile isBlank := fun hmem =>
    absurd (List.mem_takeWhile_imp hmem) (by decide)
  rw [← leavesOpen_append hblank, trimStart, List.takeWhile_append_dropWhile]

/-- The scan comes out of a string where the reader does. -/
theorem foldl_next_of_readString? {s : List Char} (h : readString? cs = some (s, more)) :
    cs.foldl Quoting.next .inside = more.foldl Quoting.next .outside := by
  fun_induction readString? cs generalizing s with
  | case1 => cases h
  | case2 => cases h; rfl
  | case3 => cases h
  | case4 d rest _ ih =>
    obtain ⟨⟨s, more⟩, hread, heq⟩ := Option.map_eq_some_iff.mp h
    cases heq
    exact ih hread
  | case5 c rest hquote hslash ih =>
    obtain ⟨⟨s, more⟩, hread, heq⟩ := Option.map_eq_some_iff.mp h
    cases heq
    rw [List.foldl_cons, Quoting.next, if_neg hquote, if_neg hslash, ih hread]

theorem foldl_next_of_readString?_none (h : readString? cs = none) :
    cs.foldl Quoting.next .inside ≠ .outside := by
  fun_induction readString? cs with
  | case1 => decide
  | case2 => cases h
  | case3 => decide
  | case4 d rest _ ih => exact ih (Option.map_eq_none_iff.mp h)
  | case5 c rest hquote hslash ih =>
    rw [List.foldl_cons, Quoting.next, if_neg hquote, if_neg hslash]
    exact ih (Option.map_eq_none_iff.mp h)

theorem leavesOpen_quote_of_some {s : List Char} (h : readString? cs = some (s, more)) :
    leavesOpen ('"' :: cs) = leavesOpen more :=
  congrArg (· != Quoting.outside) (foldl_next_of_readString? h)

theorem leavesOpen_quote_of_none (h : readString? cs = none) : leavesOpen ('"' :: cs) = true :=
  bne_iff_ne.mpr (foldl_next_of_readString?_none h)

theorem takeWord_fst_append_snd (started : Bool) (cs : List Char) :
    (takeWord started cs).1 ++ (takeWord started cs).2 = cs := by
  induction cs generalizing started with
  | nil => rfl
  | cons c cs ih =>
    rw [takeWord]
    dsimp only
    split
    · rfl
    · exact congrArg (c :: ·) (ih true)

theorem quote_not_mem_takeWord (started : Bool) (cs : List Char) :
    '"' ∉ (takeWord started cs).1 := by
  induction cs generalizing started with
  | nil => exact List.not_mem_nil
  | cons c cs ih =>
    rw [takeWord]
    dsimp only
    split
    · exact List.not_mem_nil
    · next hstop =>
      refine List.not_mem_cons_of_ne_of_not_mem ?_ (ih true)
      rintro rfl
      exact hstop (by cases started <;> rfl)

/-! ## What a reading comes to -/

/-- What can start with a character: a token that is no empty word, with as many strings open behind
it as in front of it, or a string that has no end. -/
inductive Lexed (c : Char) (rest : List Char) : Except ExprError (Token × List Char) → Prop where
  | token {t : Token} {more : List Char} (hword : t ≠ .word "")
      (hopen : leavesOpen (c :: rest) = leavesOpen more) : Lexed c rest (.ok (t, more))
  | unclosed (hopen : leavesOpen (c :: rest) = true) : Lexed c rest (.error .unterminatedString)

theorem word_ofList_cons_ne (c : Char) (cs : List Char) :
    Token.word (String.ofList (c :: cs)) ≠ .word "" := by
  intro heq
  have hchars : c :: cs = [] := String.ofList_injective (Token.word.inj heq)
  cases hchars

theorem ofNumberText_ne (c : Char) (cs : List Char) : ofNumberText (c :: cs) ≠ .word "" := by
  rw [ofNumberText]
  split
  · intro heq
    cases heq
  · exact word_ofList_cons_ne c cs

theorem lexed_lexeme (c : Char) (rest : List Char) : Lexed c rest (lexeme c rest) := by
  fun_cases lexeme c rest
  case case1 hdigit digits =>
    have hquote : '"' ∉ c :: rest.takeWhile isNumberChar := by
      refine List.not_mem_cons_of_ne_of_not_mem ?_ fun hmem => ?_
      · rintro rfl
        exact absurd hdigit (by decide)
      · exact absurd (List.mem_takeWhile_imp hmem) (by decide)
    have hopen := leavesOpen_append hquote (rest.dropWhile isNumberChar)
    rw [List.cons_append, List.takeWhile_append_dropWhile] at hopen
    exact .token (ofNumberText_ne c _) hopen
  case case4 hread => exact .token nofun (leavesOpen_quote_of_some hread)
  case case5 hread => exact .unclosed (leavesOpen_quote_of_none hread)
  case case23 letters more hquote _ _ _ _ _ _ _ _ _ _ _ _ _ hword _ _ _ _ _ _ _ =>
    have htake := takeWord_fst_append_snd true rest
    have hletters := quote_not_mem_takeWord true rest
    rw [hword] at htake hletters
    have hfront : '"' ∉ c :: letters :=
      List.not_mem_cons_of_ne_of_not_mem (fun heq => hquote heq.symm) hletters
    refine .token (word_ofList_cons_ne c letters) ?_
    rw [← htake, ← List.cons_append, leavesOpen_append hfront]
  all_goals exact .token nofun rfl

/-- **What one reading comes to.**  The text is blank, it starts with a string that has no end, or a
token is taken from it, which takes a character at least and is no empty word. -/
theorem readOne_cases (cs : List Char) :
    readOne cs = .error .finished ∧ tokenize cs = .ok [] ∧ leavesOpen cs = false ∨
      readOne cs = .error .unclosed ∧ tokenize cs = .error .unterminatedString ∧
        leavesOpen cs = true ∨
      ∃ t more, readOne cs = .ok (t, more) ∧ tokenize cs = (tokenize more).map (t :: ·) ∧
        leavesOpen cs = leavesOpen more ∧ more.length < cs.length ∧ t ≠ .word "" := by
  rw [← leavesOpen_trimStart cs]
  cases hstart : trimStart cs with
  | nil =>
    refine .inl ⟨?_, tokenize_of_blank hstart, rfl⟩
    rw [readOne, hstart]
  | cons c rest =>
    have hlexed := lexed_lexeme c rest
    rw [readOne_eq hstart]
    cases hlexeme : lexeme c rest with
    | error e =>
      rw [hlexeme] at hlexed
      cases hlexed with
      | unclosed hopen => exact .inr (.inl ⟨rfl, tokenize_of_lexeme_error hstart hlexeme, hopen⟩)
    | ok r =>
      rw [hlexeme] at hlexed
      cases hlexed with
      | @token t more hword hopen =>
        refine .inr (.inr ⟨t, more, rfl, tokenize_of_lexeme hstart hlexeme, hopen, ?_, hword⟩)
        have hlength := length_trimStart_le cs
        rw [hstart, List.length_cons] at hlength
        exact Nat.lt_of_le_of_lt (length_lexeme_le hlexeme) hlength

/-! ## All of a text -/

theorem readAll_of_length_lt {n : Nat} (h : cs.length < n) :
    ∃ ts, readAll n cs = some (ts, if leavesOpen cs then .unclosed else .finished) ∧
      .word "" ∉ ts ∧
      tokenize cs = if leavesOpen cs then .error .unterminatedString else .ok ts := by
  induction n generalizing cs with
  | zero => cases h
  | succ n ih =>
    rcases readOne_cases cs with ⟨hread, htokens, hopen⟩ | ⟨hread, htokens, hopen⟩ |
      ⟨t, more, hread, htokens, hopen, hlength, hword⟩
    · exact ⟨[], by simp [readAll, hread, hopen], List.not_mem_nil, by simp [htokens, hopen]⟩
    · exact ⟨[], by simp [readAll, hread, hopen], List.not_mem_nil, by simp [htokens, hopen]⟩
    · have hshort : more.length < n := by omega
      obtain ⟨ts, hreads, hnone, hmore⟩ := ih hshort
      refine ⟨t :: ts, ?_, List.not_mem_cons_of_ne_of_not_mem hword.symm hnone, ?_⟩
      · rw [readAll, hread]
        dsimp only
        rw [hreads, hopen]
        rfl
      · rw [htokens, hmore, hopen]
        split <;> rfl

/-- **Reading tokens always ends, and only a string without an end can go wrong.**  Each reading
takes a character at least, an operator character always starts an operator or a string, and so one
reading more than there are characters is enough.  No word that is read is empty.  The reading fails
if and only if the text ends inside of a string, as the quotes and backslashes tell. -/
theorem tokenize_total (cs : List Char) :
    (∀ t more, readOne cs = .ok (t, more) → more.length < cs.length) ∧
      (∀ c, readOne cs ≠ .error (.stray c)) ∧
      ∃ ts, readAll (cs.length + 1) cs =
          some (ts, if leavesOpen cs then .unclosed else .finished) ∧
        .word "" ∉ ts ∧
        tokenize cs = if leavesOpen cs then .error .unterminatedString else .ok ts := by
  refine ⟨fun t more h => ?_, fun c h => ?_, readAll_of_length_lt (Nat.lt_succ_self _)⟩
  all_goals
    rcases readOne_cases cs with ⟨hread, -⟩ | ⟨hread, -⟩ | ⟨u, rest, hread, -, -, hlength, -⟩
    all_goals cases hread.symm.trans h
  exact hlength

/-- A hyphen stays in a word, and behind it a string is left open although it holds a quote. -/
theorem tokenize_total_unclosed :
    readOne "a-b \"c\\\"".toList = .ok (.word "a-b", " \"c\\\"".toList) ∧
      " \"c\\\"".toList.length < "a-b \"c\\\"".toList.length ∧
      tokenize "a-b \"c\\\"".toList = .error .unterminatedString := by
  have hread : readOne "a-b \"c\\\"".toList = .ok (.word "a-b", " \"c\\\"".toList) := by rfl
  have hopen : leavesOpen "a-b \"c\\\"".toList = true := by decide
  obtain ⟨hshorter, -, ts, -, -, htokens⟩ := tokenize_total "a-b \"c\\\"".toList
  rw [hopen] at htokens
  exact ⟨hread, hshorter _ _ hread, htokens⟩

end Token
end StreamScript
