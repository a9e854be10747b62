import StreamScript.Expr.Token

/-!
# Reading tokens

Expression text falls into tokens from left to right.  A digit starts a number,
which is a word after all when it cannot be read as one; a quote starts a string;
a word is whatever stands between blanks and operators.  A hyphen belongs to the
word it stands in, and `&` and `|` are operators only when doubled.

The only thing that can go wrong is a string that is not closed.  Each token
takes at least one character (`length_lexeme_le`), which is what makes reading
end.
-/

namespace StreamScript
namespace Token

open Text

/-- Characters that end a word. -/
def isOperatorChar (c : Char) : Bool :=
  "+-*/%!=<>(),\"".toList.contains c

/-- Characters a number is read from. -/
def isNumberChar (c : Char) : Bool :=
  c.isAlphanum || c == '.' || c == '_'

/-- Reads a string from behind its opening quote.  An escaped quote is a quote; any other escape is
kept, backslash and all. -/
def readString? : List Char → Option (List Char × List Char)
  | [] => none
  | c :: rest =>
      if c = '"' then some ([], rest)
      else if c = '\\' then
        match rest with
        | [] => none
        | d :: rest =>
            (readString? rest).map fun (s, more) =>
              (if d = '"' then d :: s else c :: d :: s, more)
      else (readString? rest).map fun (s, more) => (c :: s, more)

/-- Takes a word; `started` tells whether some of it has been read. -/
def takeWord (started : Bool) : List Char → List Char × List Char
  | [] => ([], [])
  | c :: rest =>
      let doubled := rest.head? == some c
      if isBlank c || (isOperatorChar c && !(c == '-' && started))
          || ((c == '&' || c == '|') && doubled) then
        ([], c :: rest)
      else
        let (letters, more) := takeWord true rest
        (c :: letters, more)

/-- A number, or the word that looked like one. -/
def ofNumberText (cs : List Char) : Token :=
  match Num.read? cs with
  | some n => .num n
  | none => .word (String.ofList cs)

/-- Reads the token that starts with the character `c`, which is not blank. -/
def lexeme (c : Char) (rest : List Char) : Except ExprError (Token × List Char) :=
  if c.isDigit then
    let more := rest.takeWhile isNumberChar
    .ok (ofNumberText (c :: more), rest.dropWhile isNumberChar)
  else
    match c, rest with
    | '&', '&' :: rest => .ok (.and, rest)
    | '|', '|' :: rest => .ok (.or, rest)
    | '"', rest =>
        match readString? rest with
        | some (s, rest) => .ok (.str (String.ofList s), rest)
        | none => .error .unterminatedString
    | '+', rest => .ok (.plus, rest)
    | '-', rest => .ok (.minus, rest)
    | '*', rest => .ok (.star, rest)
    | '/', rest => .ok (.slash, rest)
    | '%', rest => .ok (.percent, rest)
    | '(', rest => .ok (.lparen, rest)
    | ')', rest => .ok (.rparen, rest)
    | ',', rest => .ok (.comma, rest)
    | '!', '=' :: rest => .ok (.ne, rest)
    | '!', rest => .ok (.bang, rest)
    | '=', '=' :: rest => .ok (.eq, rest)
    | '=', rest => .ok (.eq, rest)
    | '<', '=' :: rest => .ok (.le, rest)
    | '<', '>' :: rest => .ok (.ne, rest)
    | '<', rest => .ok (.lt, rest)
    | '>', '=' :: rest => .ok (.ge, rest)
    | '>', rest => .ok (.gt, rest)
    | c, rest =>
        let (letters, rest) := takeWord true rest
        .ok (.word (String.ofList (c :: letters)), rest)

theorem length_readString?_lt {cs s rest : List Char} (h : readString? cs = some (s, rest)) :
    rest.length < cs.length := by
  fun_induction readString? cs generalizing s rest with
  | case1 => simp at h
  | case2 => simp_all
  | case3 => simp at h
  | case4 =>
    rename_i d more _ ih
    obtain ⟨⟨s', r'⟩, hr, hs⟩ := Option.map_eq_some_iff.mp h
    have := ih hr
    simp_all
    omega
  | case5 =>
    rename_i c more _ _ ih
    obtain ⟨⟨s', r'⟩, hr, hs⟩ := Option.map_eq_some_iff.mp h
    have := ih hr
    simp_all
    omega

theorem length_takeWord_le (started : Bool) (cs : List Char) :
    (takeWord started cs).2.length ≤ cs.length := by
  induction cs generalizing started with
  | nil => simp [takeWord]
  | cons c rest ih =>
    simp only [takeWord]
    split
    · simp
    · have := ih true
      simp
      omega

/-- What a token leaves is shorter than what it was read from. -/
theorem length_lexeme_le {c : Char} {rest more : List Char} {t : Token}
    (h : lexeme c rest = .ok (t, more)) : more.length ≤ rest.length := by
  unfold lexeme at h
  split at h
  · simp only [Except.ok.injEq, Prod.mk.injEq] at h
    rw [← h.2]
    exact (List.dropWhile_suffix _).length_le
  · split at h
    all_goals try
      simp only [Except.ok.injEq, Prod.mk.injEq] at h
      obtain ⟨-, rfl⟩ := h
      first
        | exact Nat.le_refl _
        | exact Nat.le_succ _
        | exact length_takeWord_le _ _
    · split at h
      · next hs =>
        simp only [Except.ok.injEq, Prod.mk.injEq] at h
        rw [← h.2]
        exact Nat.le_of_lt (length_readString?_lt hs)
      · simp at h

/-- The tokens of a text. -/
def tokenize (cs : List Char) : Except ExprError (List Token) :=
  match _hs : trimStart cs with
  | [] => .ok []
  | c :: rest =>
      match _hl : lexeme c rest with
      | .error e => .error e
      | .ok (t, more) => (tokenize more).map (t :: ·)
termination_by cs.length
decreasing_by
  have h := length_trimStart_le cs
  have := length_lexeme_le _hl
  rw [_hs] at h
  simp only [List.length_cons] at h
  omega

end Token
end StreamScript
