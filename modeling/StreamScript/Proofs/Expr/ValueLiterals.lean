import StreamScript.Expr.Phrase
import StreamScript.Proofs.Expr.Precedence

/-!
# Values that travel as text

What a call in the middle of an expression returns is put into the expression as
text, and the text is read again (`Phrase.literal`).  Truth values and counts come
back as they were.  A string is written between quotes with its own quotes escaped,
but its backslashes are not, and the lexer lets a backslash take the next character
with it.

So a string comes back exactly when no backslash takes a quote or the end of the
string.  Backslashes that stand side by side take one another in pairs, and a string
goes wrong only where an odd number of them stands in front of a quote or at the end
(`Token.StrayRun`).  Then the lexer does not find the end of the string, or finds it
too early; what it has read up to there is never the whole string
(`Token.ne_of_readString?_escaped`), and nothing behind it can make up for that,
since an expression that starts with a string and is a literal is that string
(`Expr.eq_of_readLevel_str`).
-/

namespace StreamScript

open Text Number

namespace Token

variable {cs : List Char}

/-! ## Backslashes in strings -/

/-- An odd number of backslashes side by side, in front of a quote or at the end. -/
def StrayRun (cs : List Char) : Prop :=
  ∃ front n back, cs = front ++ (List.replicate (2 * n + 1) '\\' ++ back) ∧
    front.getLast? ≠ some '\\' ∧ ∀ c, back.head? = some c → c = '"'

theorem sparesQuotes_of_append {front back : List Char} (hfront : front.getLast? ≠ some '\\')
    (h : sparesQuotes (front ++ back) = true) : sparesQuotes back = true := by
  fun_induction sparesQuotes front with
  | case1 => exact h
  | case2 => exact absurd rfl hfront
  | case3 d front ih =>
    rw [List.cons_append, List.cons_append, sparesQuotes.eq_def] at h
    dsimp only at h
    rw [if_pos rfl, Bool.and_eq_true] at h
    refine ih (fun hlast => hfront ?_) h.2
    rw [List.getLast?_cons_cons, List.getLast?_cons, hlast]
    rfl
  | case4 c front hc ih =>
    rw [List.cons_append, sparesQuotes.eq_def] at h
    dsimp only at h
    rw [if_neg hc] at h
    refine ih (fun hlast => hfront ?_) h
    rw [List.getLast?_cons, hlast]
    rfl

theorem sparesQuotes_replicate {back : List Char} (hback : ∀ c, back.head? = some c → c = '"')
    (n : Nat) : sparesQuotes (List.replicate (2 * n + 1) '\\' ++ back) = false := by
  induction n with
  | zero =>
    cases back with
    | nil => rfl
    | cons c back =>
      obtain rfl := hback c rfl
      rfl
  | succ n ih =>
    have hpair : List.replicate (2 * (n + 1) + 1) '\\' ++ back =
        '\\' :: '\\' :: (List.replicate (2 * n + 1) '\\' ++ back) := rfl
    rw [hpair, sparesQuotes, if_pos rfl, ih, Bool.and_false]

theorem StrayRun.cons_cons {d : Char} (h : StrayRun cs) : StrayRun ('\\' :: d :: cs) := by
  obtain ⟨front, n, back, rfl, hfront, hback⟩ := h
  cases front with
  | cons c front => exact ⟨'\\' :: d :: c :: front, n, back, rfl, hfront, hback⟩
  | nil =>
    -- a run at the front becomes longer when what is put in front of it are backslashes
    by_cases hd : d = '\\'
    · subst hd
      exact ⟨[], n + 1, back, rfl, hfront, hback⟩
    · exact ⟨['\\', d], n, back, rfl, fun hlast => hd (Option.some.inj hlast), hback⟩

theorem StrayRun.cons {c : Char} (hc : c ≠ '\\') (h : StrayRun cs) : StrayRun (c :: cs) := by
  obtain ⟨front, n, back, rfl, hfront, hback⟩ := h
  cases front with
  | cons d front => exact ⟨c :: d :: front, n, back, rfl, hfront, hback⟩
  | nil => exact ⟨[c], n, back, rfl, fun hlast => hc (Option.some.inj hlast), hback⟩

/-- **Backslashes spare the quotes exactly when no odd run of them stands in front of one.** -/
theorem sparesQuotes_iff : sparesQuotes cs = true ↔ ¬ StrayRun cs := by
  constructor
  · rintro h ⟨front, n, back, rfl, hfront, hback⟩
    have hspares := sparesQuotes_of_append hfront h
    rw [sparesQuotes_replicate hback] at hspares
    cases hspares
  · intro h
    fun_induction sparesQuotes cs with
    | case1 => rfl
    | case2 => exact absurd ⟨[], 0, [], rfl, by simp, by simp⟩ h
    | case3 d cs ih =>
      have hquote : d ≠ '"' := by
        rintro rfl
        exact h ⟨[], 0, '"' :: cs, rfl, by simp, fun c hc => (Option.some.inj hc).symm⟩
      rw [bne_iff_ne.mpr hquote, Bool.true_and]
      exact ih fun hrun => h hrun.cons_cons
    | case4 c cs hc ih => exact ih fun hrun => h (hrun.cons hc)

/-- When backslashes take a quote, whatever string is read is another one. -/
theorem ne_of_readString?_escaped (h : sparesQuotes cs = false) {rest s more : List Char}
    (hread : readString? (escaped cs ++ '"' :: rest) = some (s, more)) : s ≠ cs := by
  fun_induction sparesQuotes cs generalizing s with
  | case1 => cases h
  | case2 =>
    have htext : escaped ['\\'] ++ '"' :: rest = '\\' :: '"' :: rest := rfl
    rw [htext, readString?_of_escape] at hread
    obtain ⟨r, -, hr⟩ := Option.map_eq_some_iff.mp hread
    obtain ⟨rfl, -⟩ := Prod.mk.inj hr
    exact fun heq => absurd (List.cons.inj heq).1 (by decide)
  | case3 d cs ih =>
    by_cases hquote : d = '"'
    · subst hquote
      -- the backslash takes the one with which the quote is escaped, and so the quote is free
      have htext : escaped ('\\' :: '"' :: cs) ++ '"' :: rest =
          '\\' :: '\\' :: '"' :: (escaped cs ++ '"' :: rest) := rfl
      rw [htext, readString?_of_escape] at hread
      obtain ⟨r, -, hr⟩ := Option.map_eq_some_iff.mp hread
      obtain ⟨rfl, -⟩ := Prod.mk.inj hr
      exact fun heq => absurd (List.cons.inj (List.cons.inj heq).2).1 (by decide)
    · rw [bne_iff_ne.mpr hquote, Bool.true_and] at h
      rw [readString?_escaped_slash hquote] at hread
      obtain ⟨⟨s', more'⟩, hr, heq⟩ := Option.map_eq_some_iff.mp hread
      obtain ⟨rfl, rfl⟩ := Prod.mk.inj heq
      exact fun heq => ih h hr (List.cons.inj (List.cons.inj heq).2).2
  | case4 c cs hc ih =>
    rw [readString?_escaped_cons hc] at hread
    obtain ⟨⟨s', more'⟩, hr, heq⟩ := Option.map_eq_some_iff.mp hread
    obtain ⟨rfl, rfl⟩ := Prod.mk.inj heq
    exact fun heq => ih h hr (List.cons.inj heq).2

end Token

/-! ## Expressions that start with a string -/

namespace Expr

variable {e lhs : Expr} {v : Value} {ts rest : List Token}

/-- Operators make no literals: a loop that ends with one has not gone round. -/
theorem eq_of_readTail_literal {fuel level : Nat}
    (h : readTail fuel level lhs ts = .ok (.literal v, rest)) : lhs = .literal v := by
  induction fuel generalizing lhs ts with
  | zero => rw [readTail] at h; cases h
  | succ fuel ih =>
    cases ts with
    | nil =>
      rw [readTail.eq_def] at h
      cases h
      rfl
    | cons t ts =>
      rw [readTail] at h
      split at h
      · split at h
        · cases hrhs : readLevel fuel (level + 1) ts with
          | error =>
            rw [hrhs] at h
            cases h
          | ok r =>
            rw [hrhs] at h
            cases ih h
        · cases h
          rfl
      · cases h
        rfl

/-- An expression that starts with a string and is a literal is that string. -/
theorem eq_of_readLevel_str {fuel level : Nat} {s : String}
    (h : readLevel fuel level (.str s :: ts) = .ok (.literal v, rest)) : v = .text s := by
  induction fuel generalizing level v rest with
  | zero => rw [readLevel] at h; cases h
  | succ fuel ih =>
    rw [readLevel] at h
    split at h
    · cases hlhs : readLevel fuel (level + 1) (.str s :: ts) with
      | error =>
        rw [hlhs] at h
        cases h
      | ok r =>
        rw [hlhs] at h
        have hr : r.1 = .literal v := eq_of_readTail_literal h
        have hread : readLevel fuel (level + 1) (.str s :: ts) = .ok (.literal v, r.2) := by
          rw [hlhs, ← hr]
        exact ih hread
    · cases fuel with
      | zero => rw [readSigned] at h; cases h
      | succ fuel =>
        rw [readSigned] at h
        cases h
        rfl

theorem eq_of_ofTokens_str {s : String} (h : ofTokens (.str s :: ts) = .ok (.literal v)) :
    v = .text s := by
  rw [ofTokens] at h
  cases hread : readLevel (10 * ((Token.str s :: ts).length + 1)) 0 (.str s :: ts) with
  | error =>
    rw [hread] at h
    cases h
  | ok r =>
    obtain ⟨e, rest⟩ := r
    rw [hread] at h
    cases rest with
    | nil =>
      cases h
      exact eq_of_readLevel_str hread
    | cons => cases h

/-- A literal is read back if its token is. -/
theorem parse_of_tokenize {text : String} (h : Token.tokenize text.toList = .ok [v.token]) :
    parse text = .ok (.literal v) := by
  have htokens : (literal v).tokens 0 = [v.token] := by rw [tokens]
  rw [parse, h, ← htokens]
  exact (reads_literal v).ofTokens

end Expr

/-! ## Literals -/

/-- Whether a value is of a kind that calls return: a truth value, a count, or a string. -/
def Value.isReturnable : Value → Bool
  | .bool _ | .text _ => true
  | .num (.int n) => decide (0 ≤ n.toInt)
  | .num (.real _) => false

namespace Token

theorem trimStart_quote (cs : List Char) : trimStart ('"' :: cs) = '"' :: cs :=
  Statement.trimStart_eq_self fun _ hd => Option.some.inj hd ▸ by decide

theorem tokenize_quote_of_none {cs : List Char} (h : readString? cs = none) :
    tokenize ('"' :: cs) = .error .unterminatedString := by
  have hlexeme : lexeme '"' cs = .error .unterminatedString := by
    unfold lexeme
    rw [if_neg (by decide)]
    simp only [h]
  exact tokenize_of_lexeme_error (trimStart_quote cs) hlexeme

/-- What starts with a quote starts with a string, if it can be read at all. -/
theorem exists_of_tokenize_quote {cs : List Char} {ts : List Token}
    (h : tokenize ('"' :: cs) = .ok ts) :
    ∃ s more us, readString? cs = some (s, more) ∧ ts = .str (String.ofList s) :: us := by
  cases hread : readString? cs with
  | none =>
    rw [tokenize_quote_of_none hread] at h
    cases h
  | some r =>
    rw [tokenize_of_lexeme (trimStart_quote cs) (lexeme_quote hread)] at h
    cases hmore : tokenize r.2 with
    | error =>
      rw [hmore] at h
      cases h
    | ok us =>
      rw [hmore] at h
      cases h
      exact ⟨r.1, r.2, us, rfl, rfl⟩

end Token

namespace Phrase

theorem toList_literal_text (s : String) :
    (literal (.text s)).toList = '"' :: (Token.escaped s.toList ++ ['"']) :=
  String.toList_ofList

/-- A literal is one token, unless backslashes take a quote in it. -/
theorem exists_lexeme_literal {v : Value} (h : v.isReturnable = true)
    (hspares : ∀ s, v = .text s → Token.sparesQuotes s.toList = true) :
    ∃ c cs, (literal v).toList = c :: cs ∧ isBlank c = false ∧
      Token.lexeme c cs = .ok (v.token, []) := by
  cases v with
  | text s =>
    refine ⟨'"', _, toList_literal_text s, by decide, ?_⟩
    rw [Token.lexeme_quote (Token.readString?_escaped (hspares s rfl) []), String.ofList_toList]
    rfl
  | bool b =>
    have hspellable : (Value.bool b).token.isSpellable = true := by cases b <;> decide
    have hlexeme := @Token.lexeme_spelling true _ hspellable [] nofun
    rwa [List.append_nil] at hlexeme
  | num n =>
    cases n with
    | int n =>
      have hlexeme := @Token.lexeme_num n (of_decide_eq_true h) [] nofun
      rwa [List.append_nil] at hlexeme
    | real x => cases h

/-- **A value comes back from its literal exactly when it is not a string in which an odd number of
backslashes stands in front of a quote or at the end.** -/
theorem parse_literal_iff {v : Value} (h : v.isReturnable = true) :
    Expr.parse (literal v) = .ok (.literal v) ↔
      ∀ s, v = .text s → ¬ Token.StrayRun s.toList := by
  constructor
  · rintro hparse s rfl hrun
    have hspares : Token.sparesQuotes s.toList = false := by
      rw [← Bool.not_eq_true, Token.sparesQuotes_iff]
      exact not_not_intro hrun
    rw [Expr.parse, toList_literal_text] at hparse
    cases htokens : Token.tokenize ('"' :: (Token.escaped s.toList ++ ['"'])) with
    | error =>
      rw [htokens] at hparse
      cases hparse
    | ok ts =>
      obtain ⟨read, more, us, hread, rfl⟩ := Token.exists_of_tokenize_quote htokens
      rw [htokens] at hparse
      have hs : s = String.ofList read := Value.text.inj (Expr.eq_of_ofTokens_str hparse)
      refine Token.ne_of_readString?_escaped hspares hread ?_
      rw [hs, String.toList_ofList]
  · intro hruns
    have hspares (s : String) (hs : v = .text s) : Token.sparesQuotes s.toList = true :=
      Token.sparesQuotes_iff.mpr (hruns s hs)
    obtain ⟨c, cs, hcs, hblank, hlexeme⟩ := exists_lexeme_literal h hspares
    have hstart : trimStart (c :: cs) = c :: cs :=
      Statement.trimStart_eq_self fun d hd => Option.some.inj hd ▸ hblank
    refine Expr.parse_of_tokenize ?_
    rw [hcs, Token.tokenize_of_lexeme hstart hlexeme, Token.tokenize_of_blank rfl]
    rfl

/-- A string with backslashes in front of a letter and in front of a quote. -/
theorem parse_literal_pattern :
    (Value.text "\\d\\\\\"x").isReturnable = true ∧
      literal (.text "\\d\\\\\"x") = "\"\\d\\\\\\\"x\"" ∧
      Expr.parse (literal (.text "\\d\\\\\"x")) = .ok (.literal (.text "\\d\\\\\"x")) := by
  refine ⟨rfl, by decide +kernel, (parse_literal_iff rfl).mpr fun s hs => ?_⟩
  rw [← Value.text.inj hs]
  exact Token.sparesQuotes_iff.mp (by decide +kernel)

/-- The function `trim` can return a string that ends with a backslash, and the end of its literal
is not found. -/
theorem parse_literal_trailing_slash :
    Builtin.callNamed? "trim" ["a\\"] = some (.ok { value := .text "a\\" }) ∧
      literal (.text "a\\") = "\"a\\\"" ∧
      Expr.parse (literal (.text "a\\")) = .error .unterminatedString := by
  refine ⟨rfl, by decide +kernel, ?_⟩
  rw [Expr.parse, toList_literal_text, Token.tokenize_quote_of_none (by decide +kernel)]
  rfl

end Phrase

end StreamScript
