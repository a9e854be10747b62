import StreamScript.Pattern.Basic

/-!
# Remembering compiled patterns

A trigger is tried on every line, so its pattern is compiled once and kept.
Patterns are kept under their text after variables have been put in, and that
text can take any number of values; once the cache is full it is emptied as a
whole.  A pattern that cannot be compiled is never kept.

The cache knows nothing about patterns except that they are compiled from texts and
looked for in lines, so it is one for any patterns of which this can be said
(`PatternEngine`).
-/

namespace StreamScript

/-- Patterns that are compiled from a text and looked for in lines.  Not every text can be
compiled. -/
class PatternEngine (P : Type) where
  compile? : String → Option P
  /-- The first match of a pattern in a line. -/
  find? : P → String → Option Captures

instance : PatternEngine Pattern where
  compile? := Pattern.regex?
  find? := Pattern.find?

/-- Compiled patterns by their text. -/
structure PatternCache (P : Type := Pattern) where
  entries : List (String × P)

namespace PatternCache

variable {P : Type}

/-- The number of patterns kept at most. -/
def capacity : Nat := 256

/-- A cache that holds nothing. -/
def empty : PatternCache P :=
  ⟨[]⟩

/-- The number of patterns held. -/
def size (cache : PatternCache P) : Nat :=
  cache.entries.length

/-- Looks for a literal target in a line; nothing is compiled for it. -/
def matchLiteral (_cache : PatternCache P) (line target : String) : Option Captures :=
  (Pattern.literal target).find? line

variable [PatternEngine P]

/-- The compiled form of a pattern, and the cache after it was asked for. -/
def pattern? (cache : PatternCache P) (src : String) : Option P × PatternCache P :=
  match cache.entries.lookup src with
  | some p => (some p, cache)
  | none =>
      match PatternEngine.compile? src with
      | none => (none, cache)
      | some p =>
          let kept := if capacity ≤ cache.size then [] else cache.entries
          (some p, ⟨(src, p) :: kept⟩)

/-- Looks for a regular pattern in a line.  One that cannot be compiled is not found. -/
def matchRegex (cache : PatternCache P) (line src : String) : Option Captures × PatternCache P :=
  let (p, cache) := cache.pattern? src
  (p.bind (PatternEngine.find? · line), cache)

end PatternCache

end StreamScript
