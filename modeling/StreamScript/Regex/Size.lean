import StreamScript.Regex.Node

/-!
# How large a pattern is

A counted repetition is written out, so a short pattern can stand for a very
large machine.  Patterns are refused beyond a limit.  The limit is in bytes and
concerns machines that read a text in its encoded form, byte by byte: one that
reads forwards and remembers groups, and one that reads backwards and does not.
A pattern fits when both stay within the limit.

Reading bytes, a set of characters becomes a set of sequences of byte ranges.
Backwards, sequences share what they have in common at their front, which is read
last.  Forwards they also share whatever follows alike, so two places of the
machine are one when the same sequences lead on from them.
-/

namespace StreamScript
namespace Regex

open Text

/-! ## Sets as sequences of byte ranges -/

/-- A closed range of bytes. -/
abbrev ByteRange : Type := Nat × Nat

/-- The numbers from `lo` to `hi` in base 64, with `k` digits behind the first, as sequences of
ranges of digits: what is left of the first block, whole blocks, and the start of the last. -/
def digitRanges : Nat → Nat → Nat → List (List (Nat × Nat))
  | 0, lo, hi => [[(lo, hi)]]
  | k + 1, lo, hi =>
      let block := Nat.pow 64 (k + 1)
      let first := lo / block
      let last := hi / block
      let within (digit start stop : Nat) : List (List (Nat × Nat)) :=
        (digitRanges k start stop).map ((digit, digit) :: ·)
      if first = last then within first (lo % block) (hi % block)
      else
        let startsWhole := lo % block == 0
        let endsWhole := hi % block == block - 1
        let head := if startsWhole then [] else within first (lo % block) (block - 1)
        let tail := if endsWhole then [] else within last 0 (hi % block)
        let lo' := if startsWhole then first else first + 1
        let hi' := if endsWhole then last else last - 1
        let whole := if lo' ≤ hi' then [(lo', hi') :: List.replicate (k + 1) (0, 63)] else []
        head ++ whole ++ tail

/-- A stretch of characters that are encoded alike: its ends, the number of bytes behind the
first, and what the first byte starts from. -/
structure Band where
  lo : Nat
  hi : Nat
  behind : Nat
  base : Nat

/-- The stretches of the code space, without the surrogates. -/
def bands : List Band :=
  [⟨0, 0x7F, 0, 0⟩, ⟨0x80, 0x7FF, 1, 0xC0⟩, ⟨0x800, 0xD7FF, 2, 0xE0⟩, ⟨0xE000, 0xFFFF, 2, 0xE0⟩,
   ⟨0x10000, 0x10FFFF, 3, 0xF0⟩]

/-- The sequences of byte ranges that encode the part of a closed range in a stretch. -/
def Band.sequences (band : Band) (range : Nat × Nat) : List (List ByteRange) :=
  let lo := max range.1 band.lo
  let hi := min range.2 band.hi
  let shift (base : Nat) (r : Nat × Nat) : ByteRange := (base + r.1, base + r.2)
  if hi < lo then []
  else
    (digitRanges band.behind lo hi).map fun digits =>
      match digits with
      | [] => []
      | first :: rest => shift band.base first :: rest.map (shift 0x80)

/-- The sequences of byte ranges that encode the members of a set, in increasing order. -/
def sequences (s : CodeSet) : List (List ByteRange) :=
  s.ranges.flatMap fun range => bands.flatMap (·.sequences range)

/-! ## The machine of a set -/

/-- The bytes of one step. -/
def stepBytes : Nat := 32

/-- The bytes of a byte range that a step goes on with. -/
def rangeBytes : Nat := 8

/-- The bytes of an alternative that a step goes on with. -/
def branchBytes : Nat := 4

/-- How many elements two lists have in common at their front. -/
def commonFront : List ByteRange → List ByteRange → Nat
  | a :: as, b :: bs => if a = b then commonFront as bs + 1 else 0
  | _, _ => 0

/-- How many byte ranges sequences in increasing order need when each shares its front with the
one before. -/
def unshared (previous : List ByteRange) : List (List ByteRange) → Nat
  | [] => 0
  | seq :: rest => seq.length - commonFront previous seq + unshared seq rest

/-- The sequences that go on from each first byte range. -/
def branches (seqs : List (List ByteRange)) : List (List (List ByteRange)) :=
  (seqs.splitBy fun a b => a.head? == b.head?).map (·.map List.tail)

/-- The places of a machine that reads sequences forwards, each as the sequences that lead on
from it.  A sequence has at most four ranges. -/
def forwardPlaces : Nat → List (List ByteRange) → List (List (List ByteRange))
  | 0, _ => []
  | depth + 1, seqs =>
      if seqs == [[]] then [] else seqs :: (branches seqs).flatMap (forwardPlaces depth)

/-- Which way a machine reads. -/
inductive Direction where
  | forward
  | backward
  deriving DecidableEq, Repr

/-- The bytes of the machine of a set.  A single character is a row of steps, and a set within
ASCII one step. -/
def setBytes (dir : Direction) (s : CodeSet) : Nat :=
  match s.ranges with
  | [] => stepBytes
  | [(lo, hi)] =>
      if lo = hi then stepBytes * (Char.ofNat lo).utf8Size
      else rangesBytes s
  | _ => rangesBytes s
where
  /-- The bytes of the machine of a set that is not a single character. -/
  rangesBytes (s : CodeSet) : Nat :=
    if s.isAscii then 2 * stepBytes + rangeBytes * s.ranges.length
    else
      let seqs := sequences s
      match dir with
      | .backward => stepBytes * (2 + unshared [] seqs) + branchBytes * seqs.length
      | .forward =>
          let places := (forwardPlaces 4 seqs).eraseDups
          stepBytes * (1 + places.length)
            + rangeBytes * places.foldl (fun n place => n + (branches place).length) 0

/-! ## The machine of a pattern -/

/-- The bytes of the machine of a pattern.  Further alternatives join the first choice. -/
def Node.bytes (dir : Direction) : Node → Nat
  | .empty => stepBytes
  | .set s => setBytes dir s
  | .look _ => stepBytes
  | .capture _ n =>
      match dir with
      | .forward => 2 * stepBytes + n.bytes dir
      | .backward => n.bytes dir
  | .seq a b => a.bytes dir + b.bytes dir
  | .alt a b =>
      let choice := match b with
        | .alt .. => 0
        | _ => 2 * stepBytes + branchBytes
      a.bytes dir + b.bytes dir + choice + branchBytes
  | .rep n least most _ =>
      let body := n.bytes dir
      let loop := stepBytes + 2 * branchBytes
      match most with
      | some most =>
          let required := if least = 0 then stepBytes else least * body
          if most ≤ least then required
          else required + stepBytes + (most - least) * (loop + body)
      | none =>
          if 0 < least then least * body + loop
          else if n.nullable then body + 2 * loop + stepBytes
          else body + loop

/-- The bytes that every machine takes whatever its pattern: a loop in front that lets a match
start anywhere, and the last step. -/
def frameBytes : Nat := 144

/-- How many bytes a machine may take: ten times two to the twentieth. -/
def maxBytes : Nat := 10485760

/-- Whether the machines of a pattern stay within the limit. -/
def Node.fits (n : Node) : Bool :=
  (Node.capture 0 n).bytes .backward + frameBytes ≤ maxBytes
    && (Node.capture 0 n).bytes .forward + frameBytes ≤ maxBytes

end Regex
end StreamScript
