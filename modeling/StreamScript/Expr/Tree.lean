import StreamScript.Expr.Builtin
import StreamScript.Expr.Lexer

/-!
# Expressions

An expression is a literal, an operator with its operands, or a call of a
built-in function.  Operators bind in six levels, loosest first: or, and,
equality, order, sums, products; all of them group to the left.  A sign or a
negation binds tighter than any of them.

Words that stand side by side are one text with single blanks between them.
-/

namespace StreamScript

open Text

/-- Operators with two operands. -/
inductive BinOp where
  | add | sub | mul | div | rem
  | eq | ne | lt | le | gt | ge
  | and | or
  deriving DecidableEq, Repr

/-- Operators with one operand. -/
inductive UnaryOp where
  | neg | not
  deriving DecidableEq, Repr

/-- An expression. -/
inductive Expr where
  | literal (v : Value)
  | unary (op : UnaryOp) (arg : Expr)
  | binary (op : BinOp) (lhs rhs : Expr)
  | call (name : String) (args : List Expr)
  deriving Repr

namespace BinOp

/-- How tightly an operator binds. -/
def level : BinOp → Nat
  | .or => 0
  | .and => 1
  | .eq | .ne => 2
  | .lt | .le | .gt | .ge => 3
  | .add | .sub => 4
  | .mul | .div | .rem => 5

/-- The operator a token stands for between two operands. -/
def ofToken? : Token → Option BinOp
  | .plus => some .add
  | .minus => some .sub
  | .star => some .mul
  | .slash => some .div
  | .percent => some .rem
  | .eq => some .eq
  | .ne => some .ne
  | .lt => some .lt
  | .le => some .le
  | .gt => some .gt
  | .ge => some .ge
  | .and => some .and
  | .or => some .or
  | _ => none

end BinOp

namespace Expr

/-- The level of signs, above all operators with two operands. -/
def signLevel : Nat := 6

/-- The value of a bare word: the two truth values have words of their own. -/
def wordValue (s : String) : Value :=
  if sameName s "true" then .bool true
  else if sameName s "false" then .bool false
  else .text s

/-- Takes the words at the front. -/
def takeWords : List Token → List String × List Token
  | .word s :: rest =>
      let (more, rest) := takeWords rest
      (s :: more, rest)
  | rest => ([], rest)

/-- The text of words that stand side by side. -/
def joinWords (first : String) (more : List String) : String :=
  more.foldl (fun text word => text ++ " " ++ word) first

/-- Behind the inside of a parenthesis, the parenthesis must close. -/
def closing (ts : List Token) : Except ExprError (List Token) :=
  match ts with
  | .rparen :: rest => .ok rest
  | _ => .error .unexpectedEnd

mutual

/-- Reads an expression whose operators bind at `level` or tighter. -/
def readLevel : Nat → Nat → List Token → Except ExprError (Expr × List Token)
  | 0, _, _ => .error .unexpectedEnd
  | fuel + 1, level, ts =>
      if level < signLevel then do
        let (lhs, rest) ← readLevel fuel (level + 1) ts
        readTail fuel level lhs rest
      else readSigned fuel ts

/-- Reads further operands at a level and groups them to the left. -/
def readTail : Nat → Nat → Expr → List Token → Except ExprError (Expr × List Token)
  | 0, _, _, _ => .error .unexpectedEnd
  | _, _, lhs, [] => .ok (lhs, [])
  | fuel + 1, level, lhs, t :: rest =>
      match BinOp.ofToken? t with
      | some op =>
          if op.level = level then do
            let (rhs, rest) ← readLevel fuel (level + 1) rest
            readTail fuel level (.binary op lhs rhs) rest
          else .ok (lhs, t :: rest)
      | none => .ok (lhs, t :: rest)

/-- Reads an operand with its signs. -/
def readSigned : Nat → List Token → Except ExprError (Expr × List Token)
  | 0, _ => .error .unexpectedEnd
  | _, [] => .error .unexpectedEnd
  | fuel + 1, t :: rest =>
      match t with
      | .minus => do
          let (arg, rest) ← readSigned fuel rest
          return (.unary .neg arg, rest)
      | .bang => do
          let (arg, rest) ← readSigned fuel rest
          return (.unary .not arg, rest)
      | .num n => .ok (.literal (.num n), rest)
      | .str s => .ok (.literal (.text s), rest)
      | .word name =>
          if Builtin.isName name && rest.head? == some .lparen then do
            let (args, rest) ← readArguments fuel rest.tail
            return (.call name args, rest)
          else
            let (more, rest) := takeWords rest
            .ok (.literal (wordValue (joinWords name more)), rest)
      | .lparen => do
          let (inner, rest) ← readLevel fuel 0 rest
          let rest ← closing rest
          return (inner, rest)
      | other => .error (.unexpected other)

/-- Reads the arguments of a call up to the closing parenthesis. -/
def readArguments : Nat → List Token → Except ExprError (List Expr × List Token)
  | 0, _ => .error .unexpectedEnd
  | _, .rparen :: rest => .ok ([], rest)
  | fuel + 1, ts => do
      let (first, rest) ← readLevel fuel 0 ts
      readMore fuel [first] rest

/-- Reads the arguments behind a comma; `done` holds those read, the latest first. -/
def readMore : Nat → List Expr → List Token → Except ExprError (List Expr × List Token)
  | 0, _, _ => .error .unexpectedEnd
  | fuel + 1, done, .comma :: rest => do
      let (arg, rest) ← readLevel fuel 0 rest
      readMore fuel (arg :: done) rest
  | _, done, rest => do
      let rest ← closing rest
      return (done.reverse, rest)

end

/-- Reads an expression from its tokens, all of which must be used.  Between one token and the
next a reading goes through at most nine functions, so the fuel never runs out. -/
def ofTokens (ts : List Token) : Except ExprError Expr := do
  let (e, rest) ← readLevel (10 * (ts.length + 1)) 0 ts
  match rest with
  | [] => return e
  | t :: _ => throw (.unexpected t)

/-- Reads an expression from text. -/
def parse (text : String) : Except ExprError Expr := do
  let ts ← Token.tokenize text.toList
  ofTokens ts

end Expr

end StreamScript
