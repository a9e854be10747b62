import StreamScript.Expr.Token

/-!
# Arithmetic and comparison

Two whole numbers are combined exactly; the result stays whole when it fits in 64
bits and becomes a double otherwise, so arithmetic never fails for size.  A
quotient stays whole only when the division leaves nothing, and a remainder only
when the quotient it belongs to fits.

Comparison is made on doubles.  Whole numbers so large that they share their
nearest double compare as equal.
-/

namespace StreamScript

open Text Number

namespace Num

/-- A whole result where there is one that fits, else the result on doubles. -/
def combine (whole? : Int → Int → Option Int) (approx : Float → Float → Float) (a b : Num) : Num :=
  let rounded := Num.real (approx a.toFloat b.toFloat)
  match a, b with
  | .int m, .int n =>
      match whole? m.toInt n.toInt with
      | some r => if Fits r then .int (Int64.ofInt r) else rounded
      | none => rounded
  | _, _ => rounded

/-- The sum. -/
def add : Num → Num → Num :=
  combine (fun m n => some (m + n)) (· + ·)

/-- The difference. -/
def sub : Num → Num → Num :=
  combine (fun m n => some (m - n)) (· - ·)

/-- The product. -/
def mul : Num → Num → Num :=
  combine (fun m n => some (m * n)) (· * ·)

/-- The quotient, whole when the division leaves nothing. -/
def div : Num → Num → Num :=
  combine (fun m n => if m.tmod n = 0 then some (m.tdiv n) else none) (· / ·)

/-- The remainder of a division toward zero, whole when the quotient fits. -/
def rem : Num → Num → Num :=
  combine (fun m n => if Fits (m.tdiv n) then some (m.tmod n) else none) remainder

/-- The negative. -/
def neg : Num → Num
  | .int n =>
      if Fits (-n.toInt) then .int (Int64.ofInt (-n.toInt)) else .real (-(Num.int n).toFloat)
  | .real x => .real (-x)

end Num

namespace Value

/-- The number a value is or spells, or the error that it has none. -/
def needNumber (v : Value) : Except ExprError Num :=
  match v.number? with
  | some n => .ok n
  | none => .error (.notNumeric v)

/-- Applies an operation to two numbers; the left operand is asked for its number first. -/
def arith (op : Num → Num → Num) (a b : Value) : Except ExprError Value := do
  let m ← a.needNumber
  let n ← b.needNumber
  return .num (op m n)

/-- Whether a value is or spells zero. -/
def isZero (v : Value) : Bool :=
  match v.float? with
  | some x => x == 0.0
  | none => false

/-- The sum of two values. -/
def add (a b : Value) : Except ExprError Value :=
  arith Num.add a b

/-- The difference of two values. -/
def sub (a b : Value) : Except ExprError Value :=
  arith Num.sub a b

/-- The product of two values. -/
def mul (a b : Value) : Except ExprError Value :=
  arith Num.mul a b

/-- The quotient of two values.  Zero as divisor is an error before anything else is. -/
def div (a b : Value) : Except ExprError Value :=
  if b.isZero then .error .divideByZero else arith Num.div a b

/-- The remainder of two values.  Zero as divisor is an error before anything else is. -/
def rem (a b : Value) : Except ExprError Value :=
  if b.isZero then .error .divideByZero else arith Num.rem a b

/-- The negative of a value. -/
def neg (v : Value) : Except ExprError Value := do
  let n ← v.needNumber
  return .num n.neg

/-- Equality as scripts mean it.  Beside a truth value, truth is compared; two numbers compare as
doubles; two texts compare as truth values when both spell one, and letter by letter otherwise; a
number and a text compare by the number's text. -/
def looseEq : Value → Value → Bool
  | .bool a, b => a == b.truth
  | a, .bool b => b == a.truth
  | .text a, .text b =>
      a == b ||
        (match readBool? a.toList, readBool? b.toList with
        | some x, some y => x == y
        | _, _ => false)
  | .text s, .num n => s == n.render
  | .num n, .text s => s == n.render
  | .num a, .num b => a.toFloat == b.toFloat

/-- The order of two doubles; what cannot be ordered counts as equal. -/
def orderFloats (x y : Float) : Ordering :=
  if x < y then .lt else if y < x then .gt else .eq

/-- The order of two values, which must both have a number. -/
def order (a b : Value) : Except ExprError Ordering := do
  let m ← a.needNumber
  let n ← b.needNumber
  return orderFloats m.toFloat n.toFloat

end Value

end StreamScript
