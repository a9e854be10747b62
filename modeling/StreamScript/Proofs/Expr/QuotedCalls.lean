import StreamScript.Expr.Phrase
import StreamScript.Proofs.Expr.ConditionEnd
import StreamScript.Proofs.Expr.Precedence

/-!
# Calls with quoted arguments

A call whose arguments are strings is read as that call (`Phrase.phrase?_read_callText`),
and dividing what stands between its parentheses gives the arguments one by one
(`Arguments.split_listText`).  The strings may hold whatever means something outside of
strings: blanks, commas, parentheses, the word `then`.

A string is one that the lexer of expressions can read.  Of such a string it is known
where each character comes from (`Token.Spells`), and this is what every induction over
it follows: a quote inside is always an escaped one.
-/

namespace StreamScript

open Text

/-! ## Strings between quotes -/

namespace Token

/-- What stands between the quotes of a string, and the text that is read from it. -/
inductive Spells : (written meant : List Char) → Prop
  | nil : Spells [] []
  | plain {c : Char} {written meant : List Char} (hquote : c ≠ '"') (hslash : c ≠ '\\')
      (h : Spells written meant) : Spells (c :: written) (c :: meant)
  | quote {written meant : List Char} (h : Spells written meant) :
      Spells ('\\' :: '"' :: written) ('"' :: meant)
  | escape {d : Char} {written meant : List Char} (hquote : d ≠ '"') (h : Spells written meant) :
      Spells ('\\' :: d :: written) ('\\' :: d :: meant)

theorem Spells.of_readString? {cs meant rest : List Char}
    (h : readString? cs = some (meant, rest)) :
    ∃ written, cs = written ++ '"' :: rest ∧ Spells written meant := by
  fun_induction readString? cs generalizing meant rest with
  | case1 => cases h
  | case2 more =>
    cases h
    exact ⟨[], rfl, .nil⟩
  | case3 => cases h
  | case4 d more hne ih =>
    obtain ⟨⟨s, r⟩, hread, heq⟩ := Option.map_eq_some_iff.mp h
    obtain ⟨written, rfl, hspells⟩ := ih hread
    dsimp only at heq
    split at heq
    · next hd =>
      cases heq
      subst hd
      exact ⟨'\\' :: '"' :: written, rfl, .quote hspells⟩
    · next hd =>
      cases heq
      exact ⟨'\\' :: d :: written, rfl, .escape hd hspells⟩
  | case5 c more hquote hslash ih =>
    obtain ⟨⟨s, r⟩, hread, heq⟩ := Option.map_eq_some_iff.mp h
    obtain ⟨written, rfl, hspells⟩ := ih hread
    cases heq
    exact ⟨c :: written, rfl, .plain hquote hslash hspells⟩

theorem Spells.readString? {written meant : List Char} (h : Spells written meant)
    (rest : List Char) : readString? (written ++ '"' :: rest) = some (meant, rest) := by
  induction h with
  | nil => rw [List.nil_append, Token.readString?.eq_def]; rfl
  | plain hquote hslash h ih =>
    rw [List.cons_append, readString?_of_plain hquote hslash, ih]
    rfl
  | quote h ih =>
    rw [List.cons_append, List.cons_append, readString?_of_escape, ih]
    rfl
  | escape hquote h ih =>
    rw [List.cons_append, List.cons_append, readString?_of_escape, ih, Option.map_some]
    dsimp only
    rw [if_neg hquote]

/-- A quote between the quotes is an escaped one, so that without any a string is what it says. -/
theorem Spells.eq_of_not_mem {written meant : List Char} (h : Spells written meant)
    (hquote : '"' ∉ written) : written = meant := by
  induction h with
  | nil => rfl
  | plain _ _ h ih => rw [ih fun hmem => hquote (List.mem_cons_of_mem _ hmem)]
  | quote h ih => exact absurd (List.mem_cons_of_mem _ (List.mem_cons_self ..)) hquote
  | escape _ h ih =>
    rw [ih fun hmem => hquote (List.mem_cons_of_mem _ (List.mem_cons_of_mem _ hmem))]

end Token

/-! ## What a call is written with -/

/-- A string as an argument, with blanks around it. -/
structure QuotedArg where
  before : List Char
  /-- What stands between the quotes. -/
  written : List Char
  /-- What the lexer reads. -/
  meant : List Char
  after : List Char
  before_blank : ∀ c ∈ before, isBlank c = true
  after_blank : ∀ c ∈ after, isBlank c = true
  closed : Token.readString? (written ++ ['"']) = some (meant, [])

namespace QuotedArg

/-- How an argument is written. -/
def text (a : QuotedArg) : List Char :=
  a.before ++ '"' :: (a.written ++ '"' :: a.after)

/-- Arguments with commas between them. -/
def listText (args : List QuotedArg) : List Char :=
  [','].intercalate (args.map text)

/-- A call of the function with a name. -/
def callText (name : String) (args : List QuotedArg) : String :=
  String.ofList (name.toList ++ '(' :: (listText args ++ [')']))

/-- A call that is a condition by itself. -/
def callPhrase (name : String) (args : List QuotedArg) : Phrase :=
  .call name (Arguments.split (String.ofList (listText args)))

/-- A call in parentheses, as a text for the host. -/
def hostText (name : String) (args : List QuotedArg) : String :=
  String.ofList ('(' :: ((callText name args).toList ++ [')']))

theorem spells (a : QuotedArg) : Token.Spells a.written a.meant := by
  obtain ⟨written, heq, hspells⟩ := Token.Spells.of_readString? a.closed
  rwa [List.append_cancel_right heq]

/-- Arguments that each stand behind a comma. -/
def moreText (args : List QuotedArg) : List Char :=
  args.flatMap fun a => ',' :: a.text

theorem moreText_cons (a : QuotedArg) (args : List QuotedArg) :
    moreText (a :: args) = ',' :: (a.text ++ moreText args) := rfl

theorem listText_cons (a : QuotedArg) (args : List QuotedArg) :
    listText (a :: args) = a.text ++ moreText args := by
  induction args generalizing a with
  | nil => simp [listText, moreText]
  | cons b args ih =>
    have hrest := ih b
    rw [listText, List.map_cons] at hrest
    rw [listText, List.map_cons, List.map_cons, List.intercalate_cons_cons, hrest,
      List.append_assoc, moreText_cons]
    rfl

end QuotedArg

/-! ### The arguments divided -/

namespace Arguments

variable {current tail : List Char}

theorem pieces_blanks {blanks : List Char} (h : ∀ c ∈ blanks, isBlank c = true) :
    pieces false false 0 current (blanks ++ tail) =
      pieces false false 0 (blanks.reverse ++ current) tail := by
  induction blanks generalizing current with
  | nil => rfl
  | cons c blanks ih =>
    obtain ⟨hc, hblanks⟩ := List.forall_mem_cons.mp h
    have hne (d : Char) (hd : isBlank d = false) : c ≠ d := ne_of_isBlank hc hd
    rw [List.cons_append, pieces, List.reverse_cons, List.append_assoc, List.singleton_append,
      ← ih hblanks]
    simp [hne '"' (by decide), hne '(' (by decide), hne ')' (by decide), hne ',' (by decide)]

/-- Between quotes nothing divides, and an escaped quote does not end them. -/
theorem pieces_spells {written meant : List Char} (h : Token.Spells written meant) :
    pieces true false 0 current (written ++ tail) =
      pieces true false 0 (written.reverse ++ current) tail := by
  induction h generalizing current with
  | nil => rfl
  | plain hquote hslash h ih =>
    rw [List.cons_append, pieces, List.reverse_cons, List.append_assoc, List.singleton_append,
      ← ih]
    simp [hquote, hslash]
  | quote h ih | escape hquote h ih =>
    rw [List.cons_append, List.cons_append, pieces, List.reverse_cons, List.reverse_cons,
      List.append_assoc, List.append_assoc, List.singleton_append, List.singleton_append, ← ih]
    simp [pieces]

theorem pieces_text (a : QuotedArg) :
    pieces false false 0 current (a.text ++ tail) =
      pieces false false 0 (a.text.reverse ++ current) tail := by
  rw [QuotedArg.text, List.append_assoc, pieces_blanks a.before_blank, List.cons_append, pieces]
  simp [pieces_spells a.spells, pieces, pieces_blanks a.after_blank]

theorem pieces_moreText (args : List QuotedArg) :
    pieces false false 0 current (QuotedArg.moreText args) =
      current.reverse :: args.map QuotedArg.text := by
  induction args generalizing current with
  | nil => rfl
  | cons a args ih =>
    rw [QuotedArg.moreText_cons, pieces]
    simp [pieces_text, ih]

theorem trim_text (a : QuotedArg) : trim a.text = '"' :: (a.written ++ ['"']) := by
  have hclosing : trimEnd ('"' :: a.after) = ['"'] := by
    rw [trimEnd_cons, trimEnd_of_blank a.after_blank]
    rfl
  have hstart : trimStart ('"' :: (a.written ++ '"' :: a.after)) =
      '"' :: (a.written ++ '"' :: a.after) := rfl
  rw [QuotedArg.text, trim, Statement.trimStart_append a.before_blank, hstart, ← List.cons_append,
    Statement.trimEnd_append (by rw [hclosing]; exact List.cons_ne_nil _ _), hclosing]
  rfl

/-- **Each argument is found**, with its quotes. -/
theorem split_listText (args : List QuotedArg) :
    split (String.ofList (QuotedArg.listText args)) =
      args.map fun a => String.ofList ('"' :: (a.written ++ ['"'])) := by
  cases args with
  | nil => rfl
  | cons a args =>
    have hpieces : (pieces false false 0 [] (QuotedArg.listText (a :: args))).map
          (fun p => String.ofList (trim p)) =
        (a :: args).map fun a => String.ofList ('"' :: (a.written ++ ['"'])) := by
      rw [QuotedArg.listText_cons, pieces_text, List.append_nil, pieces_moreText,
        List.reverse_reverse, ← List.map_cons, List.map_map]
      exact List.map_congr_left fun a _ => congrArg String.ofList (trim_text a)
    rw [split, String.toList_ofList, hpieces]
    split
    · next heq =>
      have hlist := congrArg String.toList (List.cons.inj heq).1
      rw [String.toList_ofList] at hlist
      cases hlist
    · rfl

theorem unquote_quoted (written : List Char) :
    unquote (String.ofList ('"' :: (written ++ ['"']))) = String.ofList written := by
  rw [unquote, String.toList_ofList, trim_cons_concat (by decide) (by decide)]
  exact (if_pos List.getLast?_concat).trans (by rw [List.dropLast_concat])

end Arguments

/-! ### The call as a phrase -/

namespace Phrase

variable {s : Scan} {tail : List Char}

/-- The scan is within the parentheses of a call. -/
structure Scan.InCall (s : Scan) : Prop where
  quoted : s.quoted = false
  escaped : s.escaped = false
  depth : s.depth = 1

/-- The scan is within a string among the arguments of a call. -/
structure Scan.InString (s : Scan) : Prop where
  quoted : s.quoted = true
  escaped : s.escaped = false
  depth : s.depth = 1

theorem Scan.InCall.endsAt (h : s.InCall) (cs : List Char) : s.endsAt cs = none := by
  cases cs with
  | nil => rfl
  | cons c cs => rw [Scan.endsAt, h.depth]; simp

theorem Scan.InString.endsAt (h : s.InString) (cs : List Char) : s.endsAt cs = none := by
  cases cs with
  | nil => rfl
  | cons c cs => rw [Scan.endsAt, h.quoted]; rfl

theorem Scan.InCall.next (h : s.InCall) {c : Char} (hquote : c ≠ '"') (hopen : c ≠ '(')
    (hclose : c ≠ ')') : (s.next c).InCall := by
  obtain ⟨hquoted, hescaped, hdepth⟩ := h
  constructor <;> simp [Scan.next, hquoted, hescaped, hdepth, hquote, hopen, hclose]

theorem Scan.InCall.next_quote (h : s.InCall) : (s.next '"').InString := by
  obtain ⟨hquoted, hescaped, hdepth⟩ := h
  constructor <;> simp [Scan.next, hquoted, hescaped, hdepth]

theorem Scan.InString.next_quote (h : s.InString) : (s.next '"').InCall := by
  obtain ⟨hquoted, hescaped, hdepth⟩ := h
  constructor <;> simp [Scan.next, hquoted, hescaped, hdepth]

theorem Scan.InString.next (h : s.InString) {c : Char} (hquote : c ≠ '"') (hslash : c ≠ '\\') :
    (s.next c).InString := by
  obtain ⟨hquoted, hescaped, hdepth⟩ := h
  constructor <;> simp [Scan.next, hquoted, hescaped, hdepth, hquote, hslash]

theorem Scan.InString.next_escape (h : s.InString) (d : Char) :
    ((s.next '\\').next d).InString := by
  obtain ⟨hquoted, hescaped, hdepth⟩ := h
  constructor <;> simp [Scan.next, hquoted, hescaped, hdepth]

/-- Whatever follows a text, a scan goes through it and is then in a state of some kind. -/
def Scan.Reaches (s : Scan) (cs : List Char) (kind : Scan → Prop) : Prop :=
  (∀ tail, s.Passes cs tail) ∧ kind (s.after cs)

section Reaches

variable {kind kind' : Scan → Prop} {c : Char} {cs front back : List Char}

theorem Scan.Reaches.nil (h : kind s) : s.Reaches [] kind :=
  ⟨fun _ => trivial, h⟩

theorem Scan.Reaches.cons (hend : ∀ more, s.endsAt (c :: more) = none)
    (h : (s.next c).Reaches cs kind) : s.Reaches (c :: cs) kind :=
  ⟨fun tail => ⟨hend _, h.1 tail⟩, h.2⟩

theorem Scan.Reaches.append (hfront : s.Reaches front kind)
    (hback : ∀ {t : Scan}, kind t → t.Reaches back kind') : s.Reaches (front ++ back) kind' := by
  refine ⟨fun tail => (hfront.1 _).append ((hback hfront.2).1 tail), ?_⟩
  rw [Scan.after_append]
  exact (hback hfront.2).2

theorem Scan.InCall.blanks (h : s.InCall) {blanks : List Char}
    (hblanks : ∀ c ∈ blanks, isBlank c = true) : s.Reaches blanks Scan.InCall := by
  induction blanks generalizing s with
  | nil => exact .nil h
  | cons c blanks ih =>
    obtain ⟨hc, hblanks⟩ := List.forall_mem_cons.mp hblanks
    have hnext : (s.next c).InCall :=
      h.next (ne_of_isBlank hc (by decide)) (ne_of_isBlank hc (by decide))
        (ne_of_isBlank hc (by decide))
    exact .cons (fun _ => h.endsAt _) (ih hnext hblanks)

theorem Scan.InString.spells (h : s.InString) {written meant : List Char}
    (hspells : Token.Spells written meant) : s.Reaches written Scan.InString := by
  induction hspells generalizing s with
  | nil => exact .nil h
  | plain hquote hslash _ ih => exact .cons (fun _ => h.endsAt _) (ih (h.next hquote hslash))
  | quote _ ih | escape _ _ ih =>
    refine .cons (fun _ => h.endsAt _) (.cons (fun more => ?_) (ih (h.next_escape _)))
    have hquoted : (s.next '\\').quoted = true := by simp [Scan.next, h.quoted, h.escaped]
    rw [Scan.endsAt, hquoted]
    rfl

theorem Scan.InCall.text (h : s.InCall) (a : QuotedArg) : s.Reaches a.text Scan.InCall := by
  refine (h.blanks a.before_blank).append fun ht => ?_
  refine .cons (fun _ => ht.endsAt _) ?_
  refine (ht.next_quote.spells a.spells).append fun ht => ?_
  exact .cons (fun _ => ht.endsAt _) (ht.next_quote.blanks a.after_blank)

theorem Scan.InCall.moreText (h : s.InCall) (args : List QuotedArg) :
    s.Reaches (QuotedArg.moreText args) Scan.InCall := by
  induction args generalizing s with
  | nil => exact .nil h
  | cons a args ih =>
    rw [QuotedArg.moreText_cons]
    exact .cons (fun _ => h.endsAt _)
      (((h.next (by decide) (by decide) (by decide)).text a).append fun ht => ih ht)

theorem Scan.InCall.listText (h : s.InCall) (args : List QuotedArg) :
    s.Reaches (QuotedArg.listText args) Scan.InCall := by
  cases args with
  | nil => exact .nil h
  | cons a args =>
    rw [QuotedArg.listText_cons]
    exact (h.text a).append fun ht => ht.moreText args

end Reaches

/-! The arguments of a call that is read are taken in the same way. -/

/-- The arguments of a call go on behind a text. -/
def TakesArgs (cs : List Char) : Prop :=
  ∀ tail, takeArguments false false 1 (cs ++ tail) =
    (cs ++ (takeArguments false false 1 tail).1, (takeArguments false false 1 tail).2)

theorem TakesArgs.append {front back : List Char} (hfront : TakesArgs front)
    (hback : TakesArgs back) : TakesArgs (front ++ back) := by
  intro tail
  rw [List.append_assoc, hfront, hback, List.append_assoc]

theorem takesArgs_char {c : Char} (hquote : c ≠ '"') (hopen : c ≠ '(') (hclose : c ≠ ')') :
    TakesArgs [c] := by
  intro tail
  simp [takeArguments, hquote, hopen, hclose]

theorem takesArgs_blanks {blanks : List Char} (h : ∀ c ∈ blanks, isBlank c = true) :
    TakesArgs blanks := by
  induction blanks with
  | nil => exact fun _ => rfl
  | cons c blanks ih =>
    obtain ⟨hc, hblanks⟩ := List.forall_mem_cons.mp h
    exact (takesArgs_char (ne_of_isBlank hc (by decide)) (ne_of_isBlank hc (by decide))
      (ne_of_isBlank hc (by decide))).append (ih hblanks)

theorem takeArguments_spells {written meant : List Char} (h : Token.Spells written meant)
    (tail : List Char) : takeArguments true false 1 (written ++ tail) =
      (written ++ (takeArguments true false 1 tail).1, (takeArguments true false 1 tail).2) := by
  induction h with
  | nil => rfl
  | plain hquote hslash h ih =>
    simp [takeArguments, bne_iff_ne.mpr hquote, beq_eq_false_iff_ne.mpr hslash, ih]
  | quote h ih | escape hquote h ih => simp [takeArguments, ih]

theorem takesArgs_text (a : QuotedArg) : TakesArgs a.text := by
  refine (takesArgs_blanks a.before_blank).append fun tail => ?_
  have hafter := takesArgs_blanks a.after_blank tail
  simp [takeArguments, takeArguments_spells a.spells, hafter]

theorem takesArgs_moreText (args : List QuotedArg) : TakesArgs (QuotedArg.moreText args) := by
  induction args with
  | nil => exact fun _ => rfl
  | cons a args ih =>
    rw [QuotedArg.moreText_cons]
    exact (takesArgs_char (by decide) (by decide) (by decide)).append
      ((takesArgs_text a).append ih)

theorem takesArgs_listText (args : List QuotedArg) : TakesArgs (QuotedArg.listText args) := by
  cases args with
  | nil => exact fun _ => rfl
  | cons a args =>
    rw [QuotedArg.listText_cons]
    exact (takesArgs_text a).append (takesArgs_moreText args)

/-! The name in front of them is made of letters, and no name starts like the word `then`. -/

variable {name : String}

theorem exists_name (h : Builtin.isName name = true) :
    ∃ c letters, name.toList = c :: letters ∧ ∀ d ∈ name.toList, d.isAlpha = true := by
  have hspellable := Expr.isSpellable_of_isName h
  rw [Token.isSpellable, Bool.and_eq_true, Bool.not_eq_true', List.isEmpty_eq_false_iff,
    List.all_eq_true] at hspellable
  obtain ⟨hne, hletters⟩ := hspellable
  obtain ⟨c, letters, heq⟩ := List.exists_cons_of_ne_nil hne
  exact ⟨c, letters, heq, hletters⟩

theorem startsWithThen_name (h : Builtin.isName name = true) (more : List Char) :
    startsWithThen (name.toList ++ '(' :: more) = false := by
  have hnames : ∀ entry ∈ Builtin.names, 3 ≤ entry.1.toList.length ∧
      entry.1.toList.take 3 ≠ ['t', 'h', 'e'] := by decide
  obtain ⟨f, hf⟩ := Option.isSome_iff_exists.mp h
  obtain ⟨front, back, hentries, -⟩ := List.lookup_eq_some_iff.mp hf
  obtain ⟨hlength, htake⟩ := hnames (lowered name, f) (by rw [hentries]; simp)
  rw [lowered, String.toList_ofList, length_lowerAscii] at hlength
  rw [lowered, String.toList_ofList] at htake
  have hfront :
      lowerAscii ((name.toList ++ '(' :: more).take 4) ≠ lowerAscii ['t', 'h', 'e', 'n'] := by
    intro heq
    have hthree := congrArg (List.take 3) heq
    rw [lowerAscii, ← List.map_take, List.take_take, List.take_append_of_le_length
      (Nat.le_trans (by decide) hlength)] at hthree
    refine htake ?_
    rw [lowerAscii, ← List.map_take]
    exact hthree
  rw [startsWithThen, eqIgnoringCase, beq_false_of_ne hfront, Bool.false_and]

/-- The scan is within the name of a call. -/
structure Scan.InName (s : Scan) : Prop where
  quoted : s.quoted = false
  escaped : s.escaped = false
  depth : s.depth = 0
  fresh : s.fresh = false

theorem Scan.InName.endsAt (h : s.InName) {c : Char} (hc : c ≠ '\x7b') (more : List Char) :
    s.endsAt (c :: more) = none := by
  obtain ⟨hquoted, -, hdepth, hfresh⟩ := h
  simp [Scan.endsAt, hquoted, hdepth, hfresh, hc]

theorem Scan.next_letter {c : Char} (hc : c.isAlpha = true) (hquoted : s.quoted = false)
    (hescaped : s.escaped = false) (hdepth : s.depth = 0) : (s.next c).InName := by
  have hne (d : Char) (hd : d.isAlpha = false) : c ≠ d := ne_of_isAlpha hc hd
  constructor <;> simp [Scan.next, hquoted, hescaped, hdepth, isBlank_of_isAlpha hc,
    hne '"' (by decide), hne '(' (by decide), hne ')' (by decide)]

theorem Scan.InName.next_lparen (h : s.InName) : (s.next '(').InCall := by
  obtain ⟨hquoted, hescaped, hdepth, hfresh⟩ := h
  constructor <;> simp [Scan.next, hquoted, hescaped, hdepth]

theorem Scan.InName.letters (h : s.InName) {letters : List Char}
    (hletters : ∀ c ∈ letters, c.isAlpha = true) : s.Reaches letters Scan.InName := by
  induction letters generalizing s with
  | nil => exact .nil h
  | cons c letters ih =>
    obtain ⟨hc, hletters⟩ := List.forall_mem_cons.mp hletters
    exact .cons (h.endsAt (ne_of_isAlpha hc (by decide)))
      (ih (Scan.next_letter hc h.quoted h.escaped h.depth) hletters)

/-- A call is a condition up to its closing parenthesis. -/
theorem passes_callText (h : Builtin.isName name = true) (args : List QuotedArg) :
    Scan.Passes {} (QuotedArg.callText name args).toList [] := by
  obtain ⟨c, letters, heq, hletters⟩ := exists_name h
  have hthen := startsWithThen_name h (QuotedArg.listText args ++ [')'])
  rw [heq] at hletters hthen
  obtain ⟨hc, hletters⟩ := List.forall_mem_cons.mp hletters
  have hname : Scan.InName (Scan.next {} c) := Scan.next_letter hc rfl rfl rfl
  have hrest : Scan.Reaches (Scan.next {} c) (letters ++ '(' :: (QuotedArg.listText args ++ [')']))
      fun _ => True :=
    (hname.letters hletters).append fun ht =>
      .cons (ht.endsAt (by decide)) <| (ht.next_lparen.listText args).append fun ht =>
        .cons (fun _ => ht.endsAt _) (.nil trivial)
  rw [QuotedArg.callText, String.toList_ofList, heq]
  refine ⟨?_, hrest.1 []⟩
  rw [List.append_nil]
  have hbrace := ne_of_isAlpha hc (by decide : '\x7b'.isAlpha = false)
  rw [Scan.endsAt, if_neg (by decide), if_neg hbrace, if_neg]
  rintro ⟨-, -, -, -, hword⟩
  exact Bool.false_ne_true (hthen.symm.trans hword)

theorem readCall?_callText (h : Builtin.isName name = true) (args : List QuotedArg) :
    readCall? (QuotedArg.callText name args).toList =
      some (QuotedArg.callPhrase name args, []) := by
  obtain ⟨c, letters, heq, hletters⟩ := exists_name h
  have hnameChar : ∀ d ∈ name.toList, (d.isAlphanum || d == '_') = true := fun d hd => by
    rw [Char.isAlphanum, hletters d hd]
    rfl
  have hargs := takesArgs_listText args [')']
  have hclose : takeArguments false false 1 [')'] = ([], [')']) := rfl
  rw [hclose, List.append_nil] at hargs
  rw [QuotedArg.callText, String.toList_ofList, readCall?.eq_def]
  split
  · next hnil => rw [heq] at hnil; cases hnil
  · next c' more hcons =>
    rw [heq] at hcons hletters
    obtain rfl := (List.cons.inj hcons).1
    rw [(List.forall_mem_cons.mp hletters).1, if_neg (by decide)]
    dsimp only
    rw [List.takeWhile_append_of_pos hnameChar, List.dropWhile_append_of_pos hnameChar,
      List.takeWhile_cons_of_neg (by decide), List.dropWhile_cons_of_neg (by decide),
      List.append_nil, String.ofList_toList]
    exact (if_pos h).trans (by rw [hargs]; rfl)

theorem exists_callText (h : Builtin.isName name = true) (args : List QuotedArg) :
    ∃ c more, isBlank c = false ∧ (QuotedArg.callText name args).toList = c :: (more ++ [')']) := by
  obtain ⟨c, letters, heq, hletters⟩ := exists_name h
  have hc : c.isAlpha = true := hletters c (by rw [heq]; exact List.mem_cons_self ..)
  refine ⟨c, letters ++ '(' :: QuotedArg.listText args, isBlank_of_isAlpha hc, ?_⟩
  rw [QuotedArg.callText, String.toList_ofList, heq, List.append_assoc]
  rfl

/-- A text that is read as one part is that part. -/
theorem parts_of_readPart {c : Char} {more : List Char} {part : Phrase} (hc : isBlank c = false)
    (h : readPart (c :: more) = (part, [])) : parts (c :: more) = [part] := by
  have hstart : trimStart (c :: more) = c :: more :=
    Statement.trimStart_eq_self fun d hd => Option.some.inj hd ▸ hc
  have hnil : parts [] = [] := by rw [parts, trimStart_nil]
  rw [parts, hstart]
  dsimp only
  rw [h]
  exact congrArg (part :: ·) ((dif_pos (Nat.succ_pos _)).trans hnil)

/-- **A call is read as a call.** -/
theorem phrase?_read_callText (h : Builtin.isName name = true) (args : List QuotedArg) :
    (read (QuotedArg.callText name args).toList).phrase? =
      some (QuotedArg.callPhrase name args) := by
  have hsplit := splitFrom_append (passes_callText h args)
  have hread := readCall?_callText h args
  obtain ⟨c, more, hc, hcall⟩ := exists_callText h args
  have hnil (s : Scan) : splitFrom s [] = ⟨[], [], false⟩ := rfl
  rw [hcall, List.append_nil, hnil] at hsplit
  rw [hcall] at hread ⊢
  have hpart : readPart (c :: (more ++ [')'])) = (QuotedArg.callPhrase name args, []) := by
    rw [readPart, hread]
  rw [read, hsplit]
  dsimp only
  rw [List.append_nil, trim_cons_concat hc (by decide), parts_of_readPart hc hpart]
  rfl

end Phrase

end StreamScript
