import StreamScript.Regex.Match
import StreamScript.Text.Quoted

/-!
# Patterns

A script waits for text in one of two ways.  A literal pattern is a piece of text
to be found as it stands; a regular one is a notation with groups.  A regular
pattern ignores case unless its author wrote a capital letter, outside brackets
and not as part of an escape: whoever takes the trouble of a capital means it.
-/

namespace StreamScript

open Text

/-- How a pattern is looked for. -/
inductive MatchMode where
  | literal
  | regex
  deriving DecidableEq, Repr

/-- What a match captured: the whole match, then the groups. -/
abbrev Captures : Type := List String

namespace Captures

/-- The whole match. -/
def whole (caps : Captures) : String :=
  caps.headD ""

/-- The number of groups, the whole match aside. -/
def groupCount (caps : Captures) : Nat :=
  caps.length - 1

/-- The `n`-th group; the whole match is group zero. -/
def group? (caps : Captures) (n : Nat) : Option String :=
  caps[n]?

end Captures

namespace Pattern

/-- Scans a pattern for a capital letter.  `escaped` holds behind a backslash, `bracketed` between
brackets. -/
def capitalFrom (escaped bracketed : Bool) : List Char → Bool
  | [] => false
  | c :: rest =>
      if escaped then capitalFrom false bracketed rest
      else if c = '\\' then capitalFrom true bracketed rest
      else if bracketed then capitalFrom false (c != ']') rest
      else if c = '[' then capitalFrom false true rest
      else isUppercase c || capitalFrom false false rest

/-- Whether the author of a pattern distinguished case. -/
def hasCapital (src : String) : Bool :=
  capitalFrom false false src.toList

/-- Compiles a regular pattern; `none` when its notation is not understood. -/
def compileRegex? (src : String) : Option Regex.Program :=
  Regex.compile? (!hasCapital src) src

/-- The match of a literal target: the target itself. -/
def findLiteral? (target line : String) : Option Captures :=
  if occursIn target line then some [target] else none

end Pattern

/-- A pattern ready to be looked for. -/
structure Pattern where
  src : String
  /-- The compiled form of a regular pattern; a literal one has none. -/
  program? : Option Regex.Program

namespace Pattern

/-- A literal pattern. -/
def literal (src : String) : Pattern :=
  ⟨src, none⟩

/-- A regular pattern, if its notation is understood. -/
def regex? (src : String) : Option Pattern :=
  (compileRegex? src).map fun prog => ⟨src, some prog⟩

/-- A pattern of the given mode. -/
def ofText? (mode : MatchMode) (src : String) : Option Pattern :=
  match mode with
  | .literal => some (literal src)
  | .regex => regex? src

/-- The mode of a pattern. -/
def mode (p : Pattern) : MatchMode :=
  if p.program?.isSome then .regex else .literal

/-- The first match in a line. -/
def find? (p : Pattern) (line : String) : Option Captures :=
  match p.program? with
  | some prog => prog.captures? line
  | none => findLiteral? p.src line

/-- Whether a line has a match. -/
def test (p : Pattern) (line : String) : Bool :=
  match p.program? with
  | some prog => (prog.search line.toList).isSome
  | none => occursIn p.src line

/-- A pattern as diagnostics show it. -/
def describe (p : Pattern) : String :=
  let mode := match p.mode with
    | .literal => "Literal"
    | .regex => "Regex"
  "Pattern \x7b src: " ++ quoted p.src ++ ", mode: " ++ mode ++ " \x7d"

end Pattern

end StreamScript
