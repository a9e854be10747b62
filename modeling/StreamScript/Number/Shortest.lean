import StreamScript.Number.Binary64
import StreamScript.Number.Integer

/-!
# The shortest decimal of a double

Among the decimals that read back as a given double there is a least number of
digits, and among those of that length one is nearest to the value.  It is found
by trying the decimal grids from coarse to fine: on each grid only the two
neighbours of the value can lie in the interval of numbers that round to it, so
two exact comparisons per grid decide the matter.
-/

namespace StreamScript
namespace Number

/-- A decimal `0.d₁d₂… * 10 ^ point`, its digits from the first non-zero one to
the last. -/
structure Decimal where
  digits : List Char
  point : Int
  deriving DecidableEq, Repr

namespace Decimal

/-- The place of the decimal point of `num / den`: the `k` for which the value lies
between `10 ^ (k - 1)` and `10 ^ k`. -/
def pointOf (num den : Nat) : Int :=
  if den ≤ num then (natText (num / den)).length
  else
    let len := (natText (den / num)).length
    if num * Nat.pow 10 (len - 1) = den then 2 - (len : Int) else 1 - (len : Int)

/-- The interval of numbers that round to `m * 2 ^ e`, in quarters of `2 ^ e`; below
a power of two the lower gap is half as wide. -/
def interval (m : Nat) (e : Int) : Nat × Nat :=
  (if m = Nat.pow 2 52 ∧ -1074 < e then 4 * m - 1 else 4 * m - 2, 4 * m + 2)

/-- Tries the grid of `n` digits.  All quantities are scaled so that they are whole:
`value`, `low` and `high` in units of `1 / unit`, the grid step being `step`. -/
def onGrid? (value low high step : Nat) (closed : Bool) : Option Nat :=
  let below := value / step
  let inside (k : Nat) : Bool :=
    if closed then low ≤ k * step && k * step ≤ high else low < k * step && k * step < high
  let above := below + 1
  match inside below, inside above with
  | true, true =>
      if value - below * step < above * step - value then some below else some above
  | true, false => some below
  | false, true => some above
  | false, false => none

/-- The first grid, from `n` digits on, that has a point in the interval. -/
def search (value low high : Nat) (scale : Nat → Nat × Nat) (closed : Bool) :
    Nat → Nat → Nat × Nat
  | 0, n => (value, n)
  | fuel + 1, n =>
      let (up, step) := scale n
      match onGrid? (value * up) (low * up) (high * up) step closed with
      | some k => (k, n)
      | none => search value low high scale closed fuel (n + 1)

/-- Drops zeros at the end. -/
def dropZeros (cs : List Char) : List Char :=
  (cs.reverse.dropWhile (· == '0')).reverse

/-- **The shortest decimal that reads back as `m * 2 ^ e`, the nearest of them.**
A double needs at most seventeen digits. -/
def shortest (m : Nat) (e : Int) : Decimal :=
  -- quarters of `2 ^ e`, over a denominator that makes them whole
  let up := Nat.pow 2 e.toNat
  let den := 4 * Nat.pow 2 (-e).toNat
  let (low, high) := interval m e
  let point := pointOf (4 * m * up) den
  let scale (n : Nat) : Nat × Nat :=
    let shift := (n : Int) - point
    (Nat.pow 10 shift.toNat, den * Nat.pow 10 (-shift).toNat)
  let (k, n) := search (4 * m * up) (low * up) (high * up) scale (m % 2 == 0) 17 1
  let digits := natText k
  ⟨dropZeros digits, point + ((digits.length : Int) - n)⟩

end Decimal

end Number
end StreamScript
