import StreamScript.Number.Real
import StreamScript.Text.LetterCase
import StreamScript.Text.Trim

/-!
# Values

Everything a script handles starts as text, and an operator that needs a number
or a truth value reads one off it.  A number is a whole one of 64 bits as long as
it can be, and a double otherwise.

Text that spells a truth value is one where a truth value is wanted; text that
spells a number is one where a number is wanted; a truth value is never a number.
-/

namespace StreamScript

open Text Number

/-- A number: whole while it fits, a double otherwise. -/
inductive Num where
  | int (n : Int64)
  | real (x : Float)
  deriving DecidableEq, Repr

namespace Num

/-- The nearest double. -/
def toFloat : Num → Float
  | .int n => Float.ofInt n.toInt
  | .real x => x

/-- Whether a double is written without a fraction: it is whole and below `10 ^ 15`. -/
def isPlainWhole (x : Float) : Bool :=
  let parts := Binary64.ofFloat x
  parts.isWhole && parts.truncate.natAbs < 1000000000000000

/-- The text of a number. -/
def render : Num → String
  | .int n => String.ofList (intText n.toInt)
  | .real x =>
      if isPlainWhole x then String.ofList (intText (Binary64.ofFloat x).truncate)
      else String.ofList (plainText x)

/-- Reads a number: a whole one if possible, else a finite double written with a digit. -/
def read? (cs : List Char) : Option Num :=
  let cs := trim cs
  match readInt64? cs with
  | some n => some (.int n)
  | none =>
      (readFloat? cs).bind fun x =>
        if (Binary64.ofFloat x).isFinite && cs.any Char.isDigit then some (.real x) else none

end Num

/-- A value of an expression. -/
inductive Value where
  | bool (b : Bool)
  | num (n : Num)
  | text (s : String)
  deriving DecidableEq, Repr

instance : Inhabited Value := ⟨.text ""⟩

/-- Reads a word for a truth value. -/
def readBool? (cs : List Char) : Option Bool :=
  match String.ofList (lowerAscii (trim cs)) with
  | "true" | "yes" | "on" | "1" | "+" => some true
  | "false" | "no" | "off" | "0" | "-" => some false
  | _ => none

namespace Value

/-- A whole number. -/
abbrev int (n : Int64) : Value :=
  .num (.int n)

/-- A double. -/
abbrev real (x : Float) : Value :=
  .num (.real x)

/-- The text of a truth value. -/
def boolText (b : Bool) : String :=
  if b then "true" else "false"

/-- The text of a value. -/
def render : Value → String
  | .bool b => boolText b
  | .num n => n.render
  | .text s => s

/-- The truth of a value: a number is true unless it is zero, text if it says so. -/
def truth : Value → Bool
  | .bool b => b
  | .num (.int n) => n != 0
  | .num (.real x) => x != 0.0
  | .text s => (readBool? s.toList).getD false

/-- The number a value is or spells. -/
def number? : Value → Option Num
  | .bool _ => none
  | .num n => some n
  | .text s => Num.read? s.toList

/-- The nearest double of the number a value is or spells. -/
def float? (v : Value) : Option Float :=
  v.number?.map Num.toFloat

/-- The name of a value's kind. -/
def kind : Value → String
  | .bool _ => "boolean"
  | .num (.int _) => "integer"
  | .num (.real _) => "real"
  | .text _ => "string"

end Value

end StreamScript
