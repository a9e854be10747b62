/-!
# Whole numbers in text

Counts and indices are read from decimal digits alone; signed numbers may carry
one sign.  A number outside the range asked for is no number at all, so a reader
never wraps around.
-/

namespace StreamScript
namespace Number

/-- The value of one decimal digit. -/
def digitValue (c : Char) : Nat :=
  c.toNat - 0x30

/-- The value of a run of decimal digits, read after `acc`. -/
def digitsFrom (acc : Nat) : List Char → Nat
  | [] => acc
  | c :: rest => digitsFrom (10 * acc + digitValue c) rest

/-- The value of a run of decimal digits. -/
def ofDigits (cs : List Char) : Nat :=
  digitsFrom 0 cs

/-- Reads a non-empty run of ASCII digits. -/
def readDigits? (cs : List Char) : Option Nat :=
  if !cs.isEmpty && cs.all Char.isDigit then some (ofDigits cs) else none

/-- Reads a count that may carry a plus sign and is at most `bound`. -/
def readNat? (bound : Nat) (cs : List Char) : Option Nat :=
  let digits := match cs with
    | '+' :: rest => rest
    | _ => cs
  (readDigits? digits).filter (· ≤ bound)

/-- The largest count that a word of 64 bits holds. -/
def maxCount : Nat := 18446744073709551615

/-- Whether an integer can be kept in a signed word of 64 bits. -/
def Fits (n : Int) : Prop :=
  -9223372036854775808 ≤ n ∧ n ≤ 9223372036854775807

instance (n : Int) : Decidable (Fits n) :=
  inferInstanceAs (Decidable (_ ∧ _))

/-- Reads a signed integer of 64 bits. -/
def readInt64? (cs : List Char) : Option Int64 :=
  let signed : Option Int := match cs with
    | '-' :: rest => (readDigits? rest).map fun n => -(n : Int)
    | '+' :: rest => (readDigits? rest).map fun n => (n : Int)
    | _ => (readDigits? cs).map fun n => (n : Int)
  (signed.filter fun n => decide (Fits n)).map Int64.ofInt

/-- The decimal digits of a count. -/
def natText (n : Nat) : List Char :=
  Nat.toDigits 10 n

/-- The decimal form of an integer. -/
def intText (n : Int) : List Char :=
  if n < 0 then '-' :: natText n.natAbs else natText n.natAbs

end Number
end StreamScript
