import StreamScript.Text.LetterCase

/-!
# Inline flags

Flags change how the rest of a pattern is read.  Most of them choose what a piece
of notation stands for: whether letters stand for both their cases, whether a
caret may stand at a line, whether classes reach beyond ASCII.  The verbose flag
is of another kind.  It lets an author spread a pattern over several lines with
comments, so it decides where one piece of notation ends and the next begins, and
every reader of the notation has to ask it.
-/

namespace StreamScript
namespace Regex

open Text

/-- What inline flags can switch. -/
structure Flags where
  ignoreCase : Bool := false
  multiLine : Bool := false
  dotAll : Bool := false
  swapGreed : Bool := false
  unicode : Bool := true
  crlf : Bool := false
  verbose : Bool := false
  deriving Repr

namespace Flags

/-! ## Setting flags -/

/-- Switches the flag that a letter names. -/
def set? (fl : Flags) (letter : Char) (on : Bool) : Option Flags :=
  match letter with
  | 'i' => some { fl with ignoreCase := on }
  | 'm' => some { fl with multiLine := on }
  | 's' => some { fl with dotAll := on }
  | 'U' => some { fl with swapGreed := on }
  | 'u' => some { fl with unicode := on }
  | 'R' => some { fl with crlf := on }
  | 'x' => some { fl with verbose := on }
  | _ => none

/-- Reads flags up to the colon or parenthesis that ends them: the flags then in force,
whether any was named, and whether a parenthesis ended them. -/
def read? (fl : Flags) (seen : List Char) (negated dangling : Bool) :
    List Char → Option (Flags × Bool × Bool × List Char)
  | [] => none
  | c :: rest =>
      if c = ':' ∨ c = ')' then
        if dangling then none else some (fl, !seen.isEmpty, c == ')', rest)
      else if c = '-' then
        if negated then none else read? fl seen true true rest
      else if seen.contains c then none
      else (fl.set? c (!negated)).bind fun fl => read? fl (c :: seen) negated false rest

/-! ## Verbose notation -/

/-- Takes the characters at the front that pass a test.  When `verbose`, white space and comments
in front of, between and behind them are passed over. -/
def takeSpaced (verbose : Bool) (test : Char → Bool) (inComment : Bool) :
    List Char → List Char × List Char
  | [] => ([], [])
  | c :: rest =>
      if inComment then takeSpaced verbose test (c != '\n') rest
      else if verbose && isBlank c then takeSpaced verbose test false rest
      else if verbose && c == '#' then takeSpaced verbose test true rest
      else if test c then
        let (taken, rest) := takeSpaced verbose test false rest
        (c :: taken, rest)
      else ([], c :: rest)

/-- Takes the characters at the front that pass a test, and passes over what the flags let a
pattern's author put between them. -/
def take (fl : Flags) (test : Char → Bool) (cs : List Char) : List Char × List Char :=
  takeSpaced fl.verbose test false cs

/-- Passes over what the flags let a pattern's author put between two pieces. -/
def skip (fl : Flags) (cs : List Char) : List Char :=
  (fl.take (fun _ => false) cs).2

/-- Takes the text in front of a closing brace. -/
def takeBraced? (fl : Flags) (cs : List Char) : Option (List Char × List Char) :=
  match fl.take (· != '\x7d') cs with
  | (text, _ :: rest) => some (text, rest)
  | (_, []) => none

/-! ## What notation stands for -/

/-- A set, with both cases of its letters where case is ignored. -/
def fold (fl : Flags) (s : CodeSet) : CodeSet :=
  if !fl.ignoreCase then s
  else if fl.unicode then s.caseless
  else s.asciiCaseless

/-- A set or, where asked for, its complement.  Among the classes of ASCII there are no
complements: they would reach beyond it. -/
def negate? (fl : Flags) (negated : Bool) (s : CodeSet) : Option CodeSet :=
  if !negated then some s
  else if fl.unicode then some s.compl
  else none

end Flags

end Regex
end StreamScript
