import StreamScript.Expr.Eval

/-!
# Phrases

A statement holds its condition or value as a phrase: text into which variables
are still to be put, calls of built-in functions, and sequences of both.  Where a
condition ends is decided before it is looked into: at the first opening brace
outside quotes and parentheses, or at the word `then`.

To evaluate a phrase, variables are put into it, its calls are made, and what is
left is handed to the host.  A host that fails never stops a script: the phrase
then has the value its reader asked for in that case.
-/

namespace StreamScript

open Text

/-- A condition or value in a statement. -/
inductive Phrase where
  | text (s : String)
  | call (name : String) (args : List String)
  | sequence (items : List Phrase)
  deriving Repr

instance : Inhabited Phrase := ⟨.text ""⟩

namespace Phrase

mutual

/-- Whether two phrases are equal. -/
def decEq : (a b : Phrase) → Decidable (a = b)
  | .text s, .text t => decidable_of_iff (s = t) (by simp)
  | .call f xs, .call g ys => decidable_of_iff (f = g ∧ xs = ys) (by simp)
  | .sequence xs, .sequence ys =>
      match decEqAll xs ys with
      | isTrue h => isTrue (by rw [h])
      | isFalse h => isFalse (by simpa using h)
  | .text _, .call .. | .text _, .sequence _ | .call .., .text _ | .call .., .sequence _
  | .sequence _, .text _ | .sequence _, .call .. => isFalse nofun

/-- Whether two lists of phrases are equal. -/
def decEqAll : (as bs : List Phrase) → Decidable (as = bs)
  | [], [] => isTrue rfl
  | a :: as, b :: bs =>
      match decEq a b, decEqAll as bs with
      | isTrue h, isTrue h' => isTrue (by rw [h, h'])
      | isFalse h, _ => isFalse fun he => h (List.cons.inj he).1
      | _, isFalse h => isFalse fun he => h (List.cons.inj he).2
  | [], _ :: _ | _ :: _, [] => isFalse nofun

end

instance : DecidableEq Phrase := decEq

mutual

/-- A phrase as it is shown. -/
def render : Phrase → String
  | .text s => s
  | .call name args => name ++ "(" ++ ", ".intercalate args ++ ")"
  | .sequence items => " ".intercalate (renderAll items)

/-- The items of a sequence as they are shown. -/
def renderAll : List Phrase → List String
  | [] => []
  | item :: rest => render item :: renderAll rest

end

/-! ## Where a condition ends -/

/-- Whether the word `then` stands at the front. -/
def startsWithThen (cs : List Char) : Bool :=
  eqIgnoringCase (cs.take 4) ['t', 'h', 'e', 'n']
    && (match (cs.drop 4).head? with
      | none => true
      | some c => isBlank c || c == '\x7b')

/-- The state of a scan for the end of a condition. -/
structure Scan where
  quoted : Bool := false
  escaped : Bool := false
  depth : Nat := 0
  /-- Whether a word may begin here. -/
  fresh : Bool := true
  deriving DecidableEq, Repr

/-- Whether the condition ends in front of a text. -/
def Scan.endsAt (s : Scan) (cs : List Char) : Option Bool :=
  match cs with
  | [] => none
  | c :: _ =>
      if s.quoted || s.depth ≠ 0 then none
      else if c = '\x7b' then some false
      else if c ≠ '"' ∧ c ≠ '(' ∧ c ≠ ')' ∧ s.fresh ∧ startsWithThen cs then some true
      else none

/-- The state behind a character. -/
def Scan.next (s : Scan) (c : Char) : Scan :=
  if s.quoted then
    if s.escaped then { s with escaped := false, fresh := false }
    else if c = '\\' then { s with escaped := true, fresh := false }
    else if c = '"' then { s with quoted := false, fresh := false }
    else { s with fresh := false }
  else
    let s := { s with fresh := isBlank c }
    if c = '"' then { s with quoted := true }
    else if c = '(' then { s with depth := s.depth + 1 }
    else if c = ')' then { s with depth := s.depth - 1 }
    else s

/-- A condition, what follows it, and whether the word `then` ended it. -/
structure Split where
  condition : List Char
  rest : List Char
  hadThen : Bool
  deriving DecidableEq, Repr

/-- Cuts a text where its condition ends. -/
def splitFrom (s : Scan) : List Char → Split
  | [] => ⟨[], [], false⟩
  | c :: rest =>
      match s.endsAt (c :: rest) with
      | some true => ⟨[], rest.drop 3, true⟩
      | some false => ⟨[], c :: rest, false⟩
      | none =>
          let cut := splitFrom (s.next c) rest
          { cut with condition := c :: cut.condition }

/-! ## What a condition is made of -/

/-- Takes a word; white space between quotes belongs to it. -/
def takeWord (quoted escaped : Bool) : List Char → List Char × List Char
  | [] => ([], [])
  | c :: rest =>
      let go (quoted escaped : Bool) : List Char × List Char :=
        let (letters, more) := takeWord quoted escaped rest
        (c :: letters, more)
      if escaped then go quoted false
      else if quoted then go (c != '"') (c == '\\')
      else if c = '"' then go true false
      else if isBlank c then ([], c :: rest)
      else go false false

/-- Takes the arguments of a call up to the parenthesis that closes it, which is left. -/
def takeArguments (quoted escaped : Bool) (depth : Nat) : List Char → List Char × List Char
  | [] => ([], [])
  | c :: rest =>
      let go (quoted escaped : Bool) (depth : Nat) : List Char × List Char :=
        let (letters, more) := takeArguments quoted escaped depth rest
        (c :: letters, more)
      if escaped then go quoted false depth
      else if quoted then go (c != '"') (c == '\\') depth
      else if c = '"' then go true false depth
      else if c = '(' then go false false (depth + 1)
      else if c = ')' then
        if depth ≤ 1 then ([], c :: rest) else go false false (depth - 1)
      else go false false depth

/-- Reads a call of a built-in function, parentheses and all. -/
def readCall? (cs : List Char) : Option (Phrase × List Char) :=
  match cs with
  | [] => none
  | c :: _ =>
      if !c.isAlpha then none
      else
        let isNameChar (c : Char) : Bool := c.isAlphanum || c == '_'
        let name := String.ofList (cs.takeWhile isNameChar)
        match cs.dropWhile isNameChar with
        | '(' :: inner =>
            if Builtin.isName name then
              let (args, rest) := takeArguments false false 1 inner
              match rest with
              | ')' :: rest => some (.call name (Arguments.split (String.ofList args)), rest)
              | _ => none
            else none
        | _ => none

/-- Reads the part that stands at the front of a text without leading blanks. -/
def readPart (cs : List Char) : Phrase × List Char :=
  match readCall? cs with
  | some found => found
  | none =>
      let (letters, rest) := takeWord false false cs
      (.text (String.ofList letters), rest)

/-- The parts of a condition.  Each takes at least one character. -/
def parts (cs : List Char) : List Phrase :=
  match trimStart cs with
  | [] => []
  | c :: rest =>
      let (part, more) := readPart (c :: rest)
      part :: (if _h : more.length < cs.length then parts more else [])
termination_by cs.length

/-- Whether a piece of text continues the operator that the text before it ends in. -/
def fuses (before after : List Char) : Bool :=
  (match before.getLast? with
    | some c => c == '!' || c == '=' || c == '<' || c == '>'
    | none => false)
    && !after.isEmpty && after.all (· == '=')

/-- Puts one piece of text behind another. -/
def fuse (before after : String) : String :=
  if fuses before.toList after.toList then before ++ after else before ++ " " ++ after

/-- Joins neighbouring pieces of text; `current` is the text being joined. -/
def joinTexts (current : Option String) : List Phrase → List Phrase
  | [] =>
      match current with
      | some s => [.text s]
      | none => []
  | .text s :: rest =>
      match current with
      | some before => joinTexts (some (fuse before s)) rest
      | none => joinTexts (some s) rest
  | other :: rest =>
      match current with
      | some s => .text s :: other :: joinTexts none rest
      | none => other :: joinTexts none rest

/-- The phrase of several parts; no part makes none. -/
def ofParts? (items : List Phrase) : Option Phrase :=
  match joinTexts none items with
  | [] => none
  | [item] => some item
  | items => some (.sequence items)

/-- A phrase read from a text, and what follows it. -/
structure Reading where
  phrase? : Option Phrase
  rest : List Char
  hadThen : Bool

/-- Reads the condition at the front of a text. -/
def read (cs : List Char) : Reading :=
  let cut := splitFrom {} cs
  ⟨ofParts? (parts (trim cut.condition)), trim cut.rest, cut.hadThen⟩

/-! ## Evaluating -/

/-- What came of a phrase: the text that was evaluated, the result, and what was captured. -/
structure Outcome (α : Type) where
  text : String
  result : α
  groups : Captures := []
  deriving Repr

/-- A phrase with its variables put in and its calls made. -/
structure Resolved where
  text : String
  /-- The value, when the phrase is a single call. -/
  direct? : Option Value := none
  groups : Captures := []

/-- Makes a call; variables are put into the arguments before their quotes are taken off. -/
def makeCall (subst : String → String) (name : String) (args : List String) :
    Except ExprError Evaluated :=
  match Builtin.callNamed? name (args.map fun a => Arguments.unquote (subst a)) with
  | none => .error (.unknownFunction name)
  | some outcome => outcome

/-- The text from which a host reads a value back. -/
def literal : Value → String
  | .text s =>
      let inside := s.toList.flatMap fun c => if c = '"' then ['\\', '"'] else [c]
      String.ofList (['"'] ++ inside ++ ['"'])
  | v => v.render

mutual

/-- Puts variables into a phrase and makes its calls. -/
def resolve (subst : String → String) : Phrase → Except ExprError Resolved
  | .text s => .ok { text := subst s }
  | .call name args => do
      let out ← makeCall subst name args
      return { text := render (.call name args), direct? := some out.value, groups := out.groups }
  | .sequence items => do
      let (texts, groups) ← resolveAll subst [] items
      return { text := " ".intercalate texts, groups := groups }

/-- Resolves the items of a sequence; the latest captures that are not empty are kept. -/
def resolveAll (subst : String → String) (groups : Captures) :
    List Phrase → Except ExprError (List String × Captures)
  | [] => .ok ([], groups)
  | item :: rest => do
      let out ← resolve subst item
      let text := match out.direct? with
        | some v => literal v
        | none => out.text
      let groups := if out.direct?.isSome && !out.groups.isEmpty then out.groups else groups
      let (texts, groups) ← resolveAll subst groups rest
      return (text :: texts, groups)

end

/-- The truth of the value of a condition: numbers and text must spell it. -/
def truthOf : Value → Bool
  | .bool b => b
  | v => (readBool? v.render.toList).getD false

/-- The host's captures, or those made before when it has none. -/
def mergeGroups (before fromHost : Captures) : Captures :=
  if fromHost.isEmpty then before else fromHost

/-- Whether a condition holds.  Whatever does not spell a truth is false. -/
def evalBool (host : Host) (subst : String → String) (phrase : Phrase) : Outcome Bool :=
  match phrase.resolve subst with
  | .error _ => { text := phrase.render, result := false }
  | .ok r =>
      match r.direct? with
      | some v => { text := r.text, result := truthOf v, groups := r.groups }
      | none =>
          let inner := trim r.text.toList
          if inner.isEmpty then { text := r.text, result := false, groups := r.groups }
          else
            match readBool? inner with
            | some b => { text := r.text, result := b, groups := r.groups }
            | none =>
                match host (String.ofList inner) with
                | .ok out =>
                    { text := r.text, result := truthOf out.value,
                      groups := mergeGroups r.groups out.groups }
                | .error _ => { text := r.text, result := false }

/-- The text of the value of a phrase, or `fallback` when it has none. -/
def evalText (host : Host) (subst : String → String) (fallback : String) (phrase : Phrase) :
    Outcome String :=
  match phrase.resolve subst with
  | .error _ => { text := phrase.render, result := fallback }
  | .ok r =>
      match r.direct? with
      | some v => { text := r.text, result := v.render, groups := r.groups }
      | none =>
          match host (trimmed r.text) with
          | .ok out =>
              { text := r.text, result := out.value.render,
                groups := mergeGroups r.groups out.groups }
          | .error _ => { text := r.text, result := fallback }

/-- The value of a phrase as a number in text; zero when it has none. -/
def evalNumber (host : Host) (subst : String → String) (phrase : Phrase) : Outcome String :=
  phrase.evalText host subst "0"

/-- The value of a phrase as text; empty when it has none. -/
def evalString (host : Host) (subst : String → String) (phrase : Phrase) : Outcome String :=
  phrase.evalText host subst ""

end Phrase

end StreamScript
