import StreamScript.Number.Shortest

/-!
# Real numbers in text

The decimal notation that scripts read real numbers in, and the two layouts they
are shown in.  The plain layout never uses an exponent and pads with zeros
instead; the scientific one, used when a diagnostic shows a number as a piece of
an expression, keeps a fraction always and turns to an exponent at both ends of
the scale.
-/

namespace StreamScript
namespace Number

/-! ## Reading -/

/-- The parts of a decimal numeral: the digits before and behind the point, and the
exponent. -/
structure Numeral where
  whole : List Char
  fraction : List Char
  exponent : Int
  deriving DecidableEq, Repr

namespace Numeral

/-- Reads the exponent part, which may be missing. -/
def readExponent? : List Char → Option Int
  | [] => some 0
  | e :: rest =>
      if e = 'e' ∨ e = 'E' then
        match rest with
        | '-' :: digits => (readDigits? digits).map fun n => -(n : Int)
        | '+' :: digits => (readDigits? digits).map fun n => (n : Int)
        | digits => (readDigits? digits).map fun n => (n : Int)
      else none

/-- Reads a numeral without a sign.  There is a digit on at least one side of the
point. -/
def read? (cs : List Char) : Option Numeral :=
  let whole := cs.takeWhile Char.isDigit
  let rest := cs.dropWhile Char.isDigit
  let (fraction, tail) := match rest with
    | '.' :: more => (more.takeWhile Char.isDigit, more.dropWhile Char.isDigit)
    | _ => ([], rest)
  if whole.isEmpty && fraction.isEmpty then none
  else (readExponent? tail).map fun e => ⟨whole, fraction, e⟩

/-- The nearest double.  A numeral beyond the scale of doubles is settled by the
place of its first digit alone. -/
def toFloat (n : Numeral) : Float :=
  let digits := (n.whole ++ n.fraction).dropWhile (· == '0')
  let exponent := n.exponent - n.fraction.length
  let size := (digits.length : Int) + exponent
  if digits.isEmpty || size < -330 then 0.0
  else if 310 < size then 1.0 / 0.0
  else Float.ofScientific (ofDigits digits) (decide (exponent < 0)) exponent.natAbs

end Numeral

/-- Reads a real number without a sign: a numeral, or one of the words for the
values that have none. -/
def readUnsigned? (cs : List Char) : Option Float :=
  let word := String.ofList (cs.map Char.toLower)
  if word = "inf" ∨ word = "infinity" then some (1.0 / 0.0)
  else if word = "nan" then some (0.0 / 0.0)
  else (Numeral.read? cs).map Numeral.toFloat

/-- Reads a real number, which may carry one sign. -/
def readFloat? (cs : List Char) : Option Float :=
  match cs with
  | '-' :: rest => (readUnsigned? rest).map Float.neg
  | '+' :: rest => readUnsigned? rest
  | _ => readUnsigned? cs

/-! ## Writing -/

/-- A row of zeros. -/
def zeros (n : Nat) : List Char :=
  List.replicate n '0'

namespace Decimal

/-- Digits with zeros put in where the point lies outside of them.  With `keepPoint` a
whole number ends in `.0`. -/
def plain (d : Decimal) (keepPoint : Bool) : List Char :=
  let len : Int := d.digits.length
  if d.point ≤ 0 then ['0', '.'] ++ zeros (-d.point).toNat ++ d.digits
  else if len ≤ d.point then
    d.digits ++ zeros (d.point - len).toNat ++ (if keepPoint then ['.', '0'] else [])
  else d.digits.take d.point.toNat ++ ['.'] ++ d.digits.drop d.point.toNat

/-- One digit before the point and an exponent. -/
def scientific (d : Decimal) : List Char :=
  let front := match d.digits with
    | [] => ['0']
    | [c] => [c]
    | c :: more => c :: '.' :: more
  front ++ ['e'] ++ intText (d.point - 1)

end Decimal

/-- The text of a double, given the layouts of zero and of other finite values. -/
def writeWith (zero : List Char) (layout : Decimal → List Char) (x : Float) : List Char :=
  match Binary64.ofFloat x with
  | .nan => ['N', 'a', 'N']
  | .infinite negative => (if negative then ['-'] else []) ++ ['i', 'n', 'f']
  | .finite negative m e =>
      (if negative then ['-'] else [])
        ++ (if m = 0 then zero else layout (Decimal.shortest m e))

/-- The plain layout: shortest digits, never an exponent. -/
def plainText (x : Float) : List Char :=
  writeWith ['0'] (·.plain false) x

/-- The scientific layout: a fraction always, and an exponent from `10 ^ 16` up and
below `10 ^ -4`. -/
def scientificText (x : Float) : List Char :=
  writeWith ['0', '.', '0']
    (fun d => if -4 < d.point ∧ d.point ≤ 16 then d.plain true else d.scientific) x

end Number
end StreamScript
