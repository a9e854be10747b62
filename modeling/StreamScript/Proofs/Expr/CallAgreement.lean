import StreamScript.Proofs.Expr.QuotedCalls
import StreamScript.Script.Scopes

/-!
# The two ways to evaluate a call

A call that is a condition by itself is made at once: its arguments are divided at commas
and their quotes taken off.  A call within parentheses is part of a text for the host,
whose lexer reads the arguments as strings.

The two find the same arguments but do not read them alike (`shown_callPhrase_eq_iff`).
In front of a quote the lexer takes the backslash off, while what stands between the
quotes of a call that is made at once is kept as it is.  Where no quote is escaped nothing
is left that could tell them apart.
-/

namespace StreamScript

open Text

/-! ## The call as text for the host -/

namespace QuotedArg

/-- What the host reads for an argument. -/
def literal (a : QuotedArg) : Expr :=
  .literal (.text (String.ofList a.meant))

/-- What the host reads for a call. -/
def callExpr (name : String) (args : List QuotedArg) : Expr :=
  .call name (args.map literal)

end QuotedArg

namespace Token

/-- Wherever a text stands in front of another, it is read as certain tokens. -/
def ReadsAs (cs : List Char) (ts : List Token) : Prop :=
  ∀ tail, tokenize (cs ++ tail) = (tokenize tail).map (ts ++ ·)

theorem ReadsAs.append {front back : List Char} {ts us : List Token} (hfront : ReadsAs front ts)
    (hback : ReadsAs back us) : ReadsAs (front ++ back) (ts ++ us) := by
  intro tail
  rw [List.append_assoc, hfront, hback]
  cases tokenize tail with
  | error => rfl
  | ok rest => exact congrArg Except.ok (List.append_assoc ..).symm

theorem ReadsAs.tokenize {cs : List Char} {ts : List Token} (h : ReadsAs cs ts) :
    tokenize cs = .ok ts := by
  have hnil : Token.tokenize [] = .ok [] := tokenize_of_blank rfl
  have hall := h []
  rw [List.append_nil, hnil] at hall
  exact hall.trans (congrArg Except.ok (List.append_nil ts))

theorem readsAs_nil : ReadsAs [] [] := by
  intro tail
  rw [List.nil_append]
  cases tokenize tail <;> rfl

theorem readsAs_blanks {blanks : List Char} (h : ∀ c ∈ blanks, isBlank c = true) :
    ReadsAs blanks [] := by
  intro tail
  rw [tokenize.eq_def (blanks ++ tail), Statement.trimStart_append h, ← tokenize.eq_def]
  exact readsAs_nil tail

theorem readsAs_lexeme {c : Char} {cs : List Char} {t : Token} (hc : isBlank c = false)
    (h : ∀ tail, lexeme c (cs ++ tail) = .ok (t, tail)) : ReadsAs (c :: cs) [t] := by
  intro tail
  have hstart : trimStart (c :: (cs ++ tail)) = c :: (cs ++ tail) :=
    Statement.trimStart_eq_self fun _ hd => Option.some.inj hd ▸ hc
  exact tokenize_of_lexeme hstart (h tail)

theorem readsAs_name {name : String} (h : Builtin.isName name = true) :
    ReadsAs (name.toList ++ ['(']) [.word name, .lparen] := by
  intro tail
  obtain ⟨c, letters, heq, hletters⟩ := Phrase.exists_name h
  have hne : name.toList ≠ [] := by rw [heq]; exact List.cons_ne_nil _ _
  have hparen : takeWord true ('(' :: tail) = ([], '(' :: tail) := by
    rw [takeWord]
    rfl
  obtain ⟨c, cs, hcs, hc, hlexeme⟩ := lexeme_word hne hletters hparen
  have hstart : trimStart (c :: cs) = c :: cs :=
    Statement.trimStart_eq_self fun _ hd => Option.some.inj hd ▸ hc
  have hlparen : ReadsAs ['('] [.lparen] := readsAs_lexeme (by decide) fun _ => rfl
  rw [List.append_assoc, List.singleton_append, hcs, tokenize_of_lexeme hstart hlexeme,
    ← List.singleton_append, hlparen]
  cases tokenize tail <;> rfl

theorem readsAs_text (a : QuotedArg) : ReadsAs a.text (a.literal.tokens 0) := by
  have hstring : ReadsAs ('"' :: (a.written ++ ['"'])) [.str (String.ofList a.meant)] := by
    refine readsAs_lexeme (by decide) fun tail => ?_
    rw [List.append_assoc]
    exact lexeme_quote (a.spells.readString? tail)
  have harg := (readsAs_blanks a.before_blank).append
    (hstring.append (readsAs_blanks a.after_blank))
  rwa [List.append_nil, List.nil_append, List.cons_append, List.append_assoc] at harg

theorem readsAs_moreText (args : List QuotedArg) :
    ReadsAs (QuotedArg.moreText args) (Expr.moreTokens (args.map QuotedArg.literal)) := by
  induction args with
  | nil => rw [List.map_nil, Expr.moreTokens]; exact readsAs_nil
  | cons a args ih =>
    have hcomma : ReadsAs [','] [.comma] := readsAs_lexeme (by decide) fun _ => rfl
    rw [List.map_cons, Expr.moreTokens]
    exact hcomma.append ((readsAs_text a).append ih)

theorem readsAs_listText (args : List QuotedArg) :
    ReadsAs (QuotedArg.listText args) (Expr.moreTokens (args.map QuotedArg.literal)).tail := by
  cases args with
  | nil => rw [List.map_nil, Expr.moreTokens]; exact readsAs_nil
  | cons a args =>
    rw [QuotedArg.listText_cons, List.map_cons, Expr.moreTokens, List.tail_cons]
    exact (readsAs_text a).append (readsAs_moreText args)

theorem readsAs_callText {name : String} (h : Builtin.isName name = true) (args : List QuotedArg) :
    ReadsAs (QuotedArg.callText name args).toList ((QuotedArg.callExpr name args).tokens 0) := by
  have hrparen : ReadsAs [')'] [.rparen] := readsAs_lexeme (by decide) fun _ => rfl
  have hcall := (readsAs_name h).append ((readsAs_listText args).append hrparen)
  rw [QuotedArg.callText, String.toList_ofList, QuotedArg.callExpr, Expr.tokens]
  rwa [List.append_assoc, List.singleton_append] at hcall

end Token

/-- A call of strings in parentheses is read as it stands. -/
theorem Expr.parse_callText {name : String} (h : Builtin.isName name = true)
    (args : List QuotedArg) :
    parse (QuotedArg.hostText name args) = .ok (QuotedArg.callExpr name args) := by
  have hlparen : Token.ReadsAs ['('] [.lparen] := Token.readsAs_lexeme (by decide) fun _ => rfl
  have hrparen : Token.ReadsAs [')'] [.rparen] := Token.readsAs_lexeme (by decide) fun _ => rfl
  have htokens := (hlparen.append ((Token.readsAs_callText h args).append hrparen)).tokenize
  have hreads : Reads (QuotedArg.callExpr name args) := by
    refine reads_call h fun e he => ?_
    obtain ⟨a, -, rfl⟩ := List.mem_map.mp he
    exact reads_literal _
  rw [List.singleton_append, List.singleton_append] at htokens
  rw [parse, QuotedArg.hostText, String.toList_ofList, htokens]
  exact ofTokens_lparen hreads

/-! ## The two values -/

/-- What scripts see of a phrase: whether it holds, its value as a number, and its value as text. -/
structure Shown where
  holds : Bool
  number : String
  text : String
  deriving DecidableEq, Repr

/-- What the evaluators make of a phrase. -/
def Phrase.shown (host : Host) (subst : String → String) (p : Phrase) : Shown where
  holds := (p.evalBool host subst).result
  number := (p.evalNumber host subst).result
  text := (p.evalString host subst).result

/-- What an evaluation comes to: its value, or what stands for one when it fails. -/
def Shown.of : Except ExprError Value → Shown
  | .ok v => ⟨Phrase.truthOf v, v.render, v.render⟩
  | .error _ => ⟨false, "0", ""⟩

namespace QuotedArg

/-- The arguments as they are written, without their quotes. -/
def writtenTexts (args : List QuotedArg) : List String :=
  args.map fun a => String.ofList a.written

/-- The arguments as the lexer reads them. -/
def meantTexts (args : List QuotedArg) : List String :=
  args.map fun a => String.ofList a.meant

end QuotedArg

variable {name : String} {f : Builtin} {subst : String → String} {args : List QuotedArg}

/-- A call by itself is made with what stands between the quotes. -/
theorem Phrase.shown_callPhrase (host : Host) (hf : Builtin.ofName? name = some f)
    (hsubst : ∀ a ∈ args, subst (String.ofList ('"' :: (a.written ++ ['"']))) =
      String.ofList ('"' :: (a.written ++ ['"']))) :
    (QuotedArg.callPhrase name args).shown host subst =
      Shown.of ((f.call name (QuotedArg.writtenTexts args)).map Evaluated.value) := by
  have htexts : (Arguments.split (String.ofList (QuotedArg.listText args))).map
      (fun a => Arguments.unquote (subst a)) = QuotedArg.writtenTexts args := by
    rw [Arguments.split_listText, List.map_map]
    refine List.map_congr_left fun a ha => ?_
    rw [Function.comp_apply, hsubst a ha, Arguments.unquote_quoted]
  have hcall : makeCall subst name (Arguments.split (String.ofList (QuotedArg.listText args))) =
      f.call name (QuotedArg.writtenTexts args) := by
    rw [makeCall, Builtin.callNamed?, hf, htexts]
    rfl
  rw [QuotedArg.callPhrase, shown, evalBool, evalNumber, evalString, evalText, evalText, resolve,
    hcall]
  cases f.call name (QuotedArg.writtenTexts args) <;> rfl

theorem Expr.evalList_literals (groups : Captures) (args : List QuotedArg) :
    evalList groups (args.map QuotedArg.literal) = .ok (QuotedArg.meantTexts args, groups) := by
  induction args with
  | nil => rw [List.map_nil, evalList]; rfl
  | cons a args ih =>
    rw [List.map_cons, evalList, QuotedArg.literal, eval]
    dsimp only [bind, Except.bind]
    rw [ih]
    rfl

/-- The host makes a call with what the lexer reads. -/
theorem Host.bundled_hostText (hf : Builtin.ofName? name = some f) (args : List QuotedArg) :
    (Host.bundled (QuotedArg.hostText name args)).map Evaluated.value =
      (f.call name (QuotedArg.meantTexts args)).map Evaluated.value := by
  have hname : Builtin.isName name = true := Option.isSome_of_mem hf
  rw [bundled, Expr.parse_callText hname]
  change ((QuotedArg.callExpr name args).eval []).map _ = _
  rw [QuotedArg.callExpr, Expr.eval, Expr.evalList_literals]
  dsimp only [bind, Except.bind]
  rw [Builtin.callNamed?, hf]
  dsimp only [Option.map_some]
  cases f.call name (QuotedArg.meantTexts args) <;> rfl

/-- A text in parentheses is left to the host. -/
theorem Phrase.shown_lparen (host : Host) {cs : List Char}
    (hsubst : subst (String.ofList ('(' :: (cs ++ [')']))) = String.ofList ('(' :: (cs ++ [')']))) :
    (Phrase.text (String.ofList ('(' :: (cs ++ [')'])))).shown host subst =
      Shown.of ((host (String.ofList ('(' :: (cs ++ [')'])))).map Evaluated.value) := by
  have htrim : trim ('(' :: (cs ++ [')'])) = '(' :: (cs ++ [')']) :=
    trim_cons_concat (by decide) (by decide) cs
  have hbool : readBool? ('(' :: (cs ++ [')'])) = none := by
    rw [readBool?, htrim, lowerAscii_cons]
    split
    all_goals first
      | rfl
      | next heq =>
        exact absurd (congrArg String.toList heq) (by rw [String.toList_ofList]; exact nofun)
  rw [shown, evalBool, evalNumber, evalString, evalText, evalText, resolve]
  dsimp only
  rw [hsubst, trimmed, String.toList_ofList, htrim, hbool]
  cases host (String.ofList ('(' :: (cs ++ [')']))) <;> rfl

/-! ### Without variables -/

/-- Whether an argument refers to no variable. -/
def QuotedArg.isPlain (a : QuotedArg) : Bool :=
  a.written.all fun c => !(['$', '%', '&'].contains c)

theorem QuotedArg.not_mem_sigils_written {a : QuotedArg} (h : a.isPlain = true) :
    ∀ c ∈ a.written, c ∉ ['$', '%', '&'] := by
  intro c hc hmem
  have hnot := List.all_eq_true.mp h c hc
  rw [List.contains_iff_mem.mpr hmem] at hnot
  cases hnot

/-- What sets other characters apart from the sigils. -/
theorem not_mem_sigils {p : Char → Bool} (hp : ['$', '%', '&'].any p = false) {c : Char}
    (hc : p c = true) : c ∉ ['$', '%', '&'] :=
  fun hmem => List.any_eq_false.mp hp c hmem hc

theorem QuotedArg.not_mem_sigils_text {a : QuotedArg} (h : a.isPlain = true) :
    ∀ c ∈ a.text, c ∉ ['$', '%', '&'] := by
  have hblank : ['$', '%', '&'].any isBlank = false := by decide
  refine List.forall_mem_append.mpr ⟨fun c hc => ?_, List.forall_mem_cons.mpr ⟨by decide, ?_⟩⟩
  · exact not_mem_sigils hblank (a.before_blank c hc)
  · refine List.forall_mem_append.mpr
      ⟨not_mem_sigils_written h, List.forall_mem_cons.mpr ⟨by decide, fun c hc => ?_⟩⟩
    exact not_mem_sigils hblank (a.after_blank c hc)

theorem QuotedArg.not_mem_sigils_listText (h : ∀ a ∈ args, a.isPlain = true) :
    ∀ c ∈ listText args, c ∉ ['$', '%', '&'] := by
  cases args with
  | nil => nofun
  | cons a args =>
    obtain ⟨ha, hargs⟩ := List.forall_mem_cons.mp h
    rw [listText_cons]
    refine List.forall_mem_append.mpr ⟨not_mem_sigils_text ha, fun c hc => ?_⟩
    obtain ⟨b, hb, hc⟩ := List.mem_flatMap.mp hc
    exact (List.forall_mem_cons.mpr ⟨by decide, not_mem_sigils_text (hargs b hb)⟩) c hc

theorem QuotedArg.not_mem_sigils_hostText (hname : Builtin.isName name = true)
    (h : ∀ a ∈ args, a.isPlain = true) :
    ∀ c ∈ (hostText name args).toList, c ∉ ['$', '%', '&'] := by
  obtain ⟨-, -, -, hletters⟩ := Phrase.exists_name hname
  have hletter : ['$', '%', '&'].any Char.isAlpha = false := by decide
  have hclose : ∀ c ∈ [')'], c ∉ ['$', '%', '&'] := List.forall_mem_singleton.mpr (by decide)
  rw [hostText, callText, String.toList_ofList, String.toList_ofList]
  refine List.forall_mem_cons.mpr ⟨by decide, List.forall_mem_append.mpr ⟨?_, hclose⟩⟩
  refine List.forall_mem_append.mpr
    ⟨fun c hc => not_mem_sigils hletter (hletters c hc), List.forall_mem_cons.mpr ⟨by decide, ?_⟩⟩
  exact List.forall_mem_append.mpr ⟨not_mem_sigils_listText h, hclose⟩

section Agreement

variable {scopes : Scopes} {globals : Store}

theorem shown_callPhrase_of_isPlain (hf : Builtin.ofName? name = some f)
    (h : ∀ a ∈ args, a.isPlain = true) :
    (QuotedArg.callPhrase name args).shown .bundled (scopes.substitute globals) =
      Shown.of ((f.call name (QuotedArg.writtenTexts args)).map Evaluated.value) := by
  refine Phrase.shown_callPhrase _ hf fun a ha => scopes.substitute_eq_self globals ?_
  rw [String.toList_ofList]
  exact List.forall_mem_cons.mpr ⟨by decide, List.forall_mem_append.mpr
    ⟨QuotedArg.not_mem_sigils_written (h a ha), List.forall_mem_singleton.mpr (by decide)⟩⟩

theorem shown_hostText_of_isPlain (hf : Builtin.ofName? name = some f)
    (h : ∀ a ∈ args, a.isPlain = true) :
    (Phrase.text (QuotedArg.hostText name args)).shown .bundled (scopes.substitute globals) =
      Shown.of ((f.call name (QuotedArg.meantTexts args)).map Evaluated.value) := by
  have hname : Builtin.isName name = true := Option.isSome_of_mem hf
  rw [← Host.bundled_hostText hf]
  exact Phrase.shown_lparen _
    (scopes.substitute_eq_self globals (QuotedArg.not_mem_sigils_hostText hname h))

/-- **The two ways to evaluate a call agree exactly when its function does not tell the arguments
as they are written from the arguments as they are read**, and so whenever no quote is escaped.
The call is any call of a built-in function, whose arguments are strings that the lexer can read. -/
theorem shown_callPhrase_eq_iff (hf : Builtin.ofName? name = some f) (h : ∀ a ∈ args, a.isPlain = true) :
    (Phrase.read (QuotedArg.callText name args).toList).phrase? =
        some (QuotedArg.callPhrase name args) ∧
      ((QuotedArg.callPhrase name args).shown .bundled (scopes.substitute globals) =
          (Phrase.text (QuotedArg.hostText name args)).shown .bundled
            (scopes.substitute globals) ↔
        Shown.of ((f.call name (QuotedArg.writtenTexts args)).map Evaluated.value) =
          Shown.of ((f.call name (QuotedArg.meantTexts args)).map Evaluated.value)) ∧
      ((∀ a ∈ args, '"' ∉ a.written) →
        (QuotedArg.callPhrase name args).shown .bundled (scopes.substitute globals) =
          (Phrase.text (QuotedArg.hostText name args)).shown .bundled
            (scopes.substitute globals)) := by
  have hname : Builtin.isName name = true := Option.isSome_of_mem hf
  rw [shown_callPhrase_of_isPlain hf h, shown_hostText_of_isPlain hf h]
  refine ⟨Phrase.phrase?_read_callText hname args, Iff.rfl, fun hquote => ?_⟩
  have htexts : QuotedArg.writtenTexts args = QuotedArg.meantTexts args :=
    List.map_congr_left fun a ha =>
      congrArg String.ofList (a.spells.eq_of_not_mem (hquote a ha))
  rw [htexts]

end Agreement

/-- Two strings that hold much of what means something outside strings. -/
def trickyArgs : List QuotedArg :=
  [⟨[' '], "a\\\\, b) then \x7b(".toList, "a\\\\, b) then \x7b(".toList, [],
      List.forall_mem_singleton.mpr (by decide), List.forall_mem_nil _, by decide +kernel⟩,
    ⟨[' ', '\t'], ", ".toList, ", ".toList, [' '], List.all_eq_true.mp (by decide),
      List.forall_mem_singleton.mpr (by decide), by decide +kernel⟩]

theorem shown_tricky_eq :
    Builtin.ofName? "CountSplit" = some .countSplit ∧ (∀ a ∈ trickyArgs, a.isPlain = true) ∧
      (∀ a ∈ trickyArgs, '"' ∉ a.written) ∧
      (QuotedArg.callPhrase "CountSplit" trickyArgs).shown .bundled
          (({} : Scopes).substitute .empty) =
        (Phrase.text (QuotedArg.hostText "CountSplit" trickyArgs)).shown .bundled
          (({} : Scopes).substitute .empty) := by
  have hf : Builtin.ofName? "CountSplit" = some .countSplit := by decide
  have hplain : ∀ a ∈ trickyArgs, a.isPlain = true := by decide +kernel
  have hquote : ∀ a ∈ trickyArgs, '"' ∉ a.written := by decide +kernel
  exact ⟨hf, hplain, hquote, (shown_callPhrase_eq_iff hf hplain).2.2 hquote⟩

/-- A string with an escaped quote in it. -/
def escapedQuote : QuotedArg :=
  ⟨[], "a\\\"b".toList, "a\"b".toList, [], List.forall_mem_nil _, List.forall_mem_nil _,
    by decide +kernel⟩

/-- The length of a string with an escaped quote is four or three. -/
theorem shown_escapedQuote_ne :
    QuotedArg.callText "len" [escapedQuote] = "len(\"a\\\"b\")" ∧
      (QuotedArg.callPhrase "len" [escapedQuote]).shown .bundled (({} : Scopes).substitute .empty) =
        ⟨false, "4", "4"⟩ ∧
      (Phrase.text (QuotedArg.hostText "len" [escapedQuote])).shown .bundled
        (({} : Scopes).substitute .empty) = ⟨false, "3", "3"⟩ := by
  have hf : Builtin.ofName? "len" = some .length := by decide
  have hplain : ∀ a ∈ [escapedQuote], a.isPlain = true := by decide +kernel
  refine ⟨by decide +kernel, ?_, ?_⟩
  · rw [shown_callPhrase_of_isPlain hf hplain]
    decide +kernel
  · rw [shown_hostText_of_isPlain hf hplain]
    decide +kernel

end StreamScript
