import StreamScript.Expr.Value
import StreamScript.Text.Quoted

/-!
# Tokens of an expression

The pieces an expression is read from, and the errors its evaluation can end in.
An error keeps what went wrong; how it is worded is decided in one place.
-/

namespace StreamScript

open Text Number

/-- A piece of an expression. -/
inductive Token where
  | num (n : Num)
  | str (s : String)
  | word (s : String)
  | plus | minus | star | slash | percent | bang
  | eq | ne | lt | le | gt | ge
  | and | or
  | comma | lparen | rparen
  deriving DecidableEq, Repr

/-- A token as diagnostics show it. -/
def Token.describe : Token → String
  | .num (.int n) => "Num(Int(" ++ String.ofList (intText n.toInt) ++ "))"
  | .num (.real x) => "Num(Float(" ++ String.ofList (scientificText x) ++ "))"
  | .str s => "Str(" ++ quoted s ++ ")"
  | .word s => "Word(" ++ quoted s ++ ")"
  | .plus => "Plus"
  | .minus => "Minus"
  | .star => "Star"
  | .slash => "Slash"
  | .percent => "Percent"
  | .bang => "Bang"
  | .eq => "Eq"
  | .ne => "Ne"
  | .lt => "Lt"
  | .le => "Le"
  | .gt => "Gt"
  | .ge => "Ge"
  | .and => "And"
  | .or => "Or"
  | .comma => "Comma"
  | .lparen => "LParen"
  | .rparen => "RParen"

/-- What can go wrong in an expression. -/
inductive ExprError where
  | unexpectedEnd
  | unexpected (token : Token)
  | unterminatedString
  | notNumeric (value : Value)
  | divideByZero
  | unknownFunction (name : String)
  | arity (name : String) (expected got : Nat)
  | invalidPattern (src : String)
  deriving DecidableEq, Repr

/-- The wording of an error. -/
def ExprError.message : ExprError → String
  | .unexpectedEnd => "unexpected end of expression"
  | .unexpected token => "unexpected token `" ++ token.describe ++ "`"
  | .unterminatedString => "unterminated string literal"
  | .notNumeric value => "`" ++ value.render ++ "` is not a number"
  | .divideByZero => "division by zero"
  | .unknownFunction name => "unknown function `" ++ name ++ "`"
  | .arity name expected got =>
      name ++ "() expects " ++ String.ofList (natText expected) ++ " argument(s), got "
        ++ String.ofList (natText got)
  | .invalidPattern src => "invalid pattern: " ++ src

end StreamScript
