/-!
# Doubles taken apart

A finite double is a signed whole number times a power of two.  Everything exact
that is asked of one — whether it is whole, its remainder by another, its value
in billionths — is a question about that pair, so it is answered in whole numbers
and never in rounded arithmetic.
-/

namespace StreamScript
namespace Number

/-- A double, taken apart. -/
inductive Binary64 where
  | nan
  | infinite (negative : Bool)
  /-- The value is `± mantissa * 2 ^ exponent`. -/
  | finite (negative : Bool) (mantissa : Nat) (exponent : Int)
  deriving DecidableEq, Repr

namespace Binary64

/-- Reads sign, exponent and fraction off the bits. -/
def ofFloat (x : Float) : Binary64 :=
  let bits := x.toBits.toNat
  let negative := decide (Nat.pow 2 63 ≤ bits)
  let biased : Nat := bits / Nat.pow 2 52 % Nat.pow 2 11
  let fraction : Nat := bits % Nat.pow 2 52
  if biased = 2047 then
    if fraction = 0 then .infinite negative else .nan
  else if biased = 0 then .finite negative fraction (-1074)
  else .finite negative (fraction + Nat.pow 2 52) ((biased : Int) - 1075)

/-- The double of a mantissa below `2 ^ 53`, or a larger one whose low bits are zero,
and an exponent within range; the inverse of taking apart. -/
def assemble (negative : Bool) (mantissa : Nat) (exponent : Int) : Float :=
  let sign : Nat := if negative then Nat.pow 2 63 else 0
  if mantissa = 0 then Float.ofBits (UInt64.ofNat sign)
  else
    -- the leading bit goes to place 52, unless the exponent would fall below the least one
    let lead : Int := (Nat.log2 mantissa : Int) - 52
    let shift := max lead (-1074 - exponent)
    let units :=
      if 0 ≤ shift then mantissa / Nat.pow 2 shift.toNat else mantissa * Nat.pow 2 (-shift).toNat
    let exponent := exponent + shift
    if units < Nat.pow 2 52 then Float.ofBits (UInt64.ofNat (sign + units))
    else
      let biased := (exponent + 1075).toNat
      Float.ofBits (UInt64.ofNat (sign + biased * Nat.pow 2 52 + (units - Nat.pow 2 52)))

/-- Whether a value is a number of finite size. -/
def isFinite : Binary64 → Bool
  | .finite .. => true
  | _ => false

/-- Whether a value is a whole number. -/
def isWhole : Binary64 → Bool
  | .finite _ m e => decide (0 ≤ e) || m % Nat.pow 2 (-e).toNat == 0
  | _ => false

/-- The whole part of a value, toward zero. -/
def truncate : Binary64 → Int
  | .finite negative m e =>
      let size : Nat := if 0 ≤ e then m * Nat.pow 2 e.toNat else m / Nat.pow 2 (-e).toNat
      if negative then -(size : Int) else size
  | _ => 0

end Binary64

/-- The remainder of a division that truncates toward zero, computed exactly.  It
takes the sign of the dividend. -/
def remainder (x y : Float) : Float :=
  match Binary64.ofFloat x, Binary64.ofFloat y with
  | .finite negative m e, .finite _ n f =>
      if n = 0 then 0.0 / 0.0
      else
        let low := min e f
        let top := m * Nat.pow 2 (e - low).toNat
        let bottom := n * Nat.pow 2 (f - low).toNat
        Binary64.assemble negative (top % bottom) low
  | .finite .., .infinite _ => x
  | _, _ => 0.0 / 0.0

/-- Rounds a quotient to the nearest whole number, halves to the even one. -/
def roundToEven (num den : Nat) : Nat :=
  let q := num / den
  let r := num % den
  if 2 * r < den then q
  else if den < 2 * r then q + 1
  else if q % 2 = 0 then q else q + 1

/-- A non-negative number of seconds in nanoseconds, to the nearest one. -/
def nanoseconds (seconds : Float) : Nat :=
  match Binary64.ofFloat seconds with
  | .finite false m e =>
      if 0 ≤ e then m * Nat.pow 2 e.toNat * 1000000000
      else roundToEven (m * 1000000000) (Nat.pow 2 (-e).toNat)
  | _ => 0

end Number
end StreamScript
