import StreamScript.Expr.Phrase
import StreamScript.Number.Draws
import StreamScript.Pattern.Cache
import StreamScript.Vars.Store

/-!
# What surrounds a script

A script reads the global variables, evaluates conditions through a host, has
lines matched by a matcher, draws random numbers and reads the clock, but it changes
none of these.  What it does outside itself is a list of events.

The clock goes on while a script runs, so it is given by what it shows reading by
reading.  A run that comes back has read it some number of times and no more, so it
is enough to list readings and to let the clock stand still behind them; no clock is
left out.
-/

namespace StreamScript

/-- What a script sends out. -/
inductive Event where
  /-- Text for the user. -/
  | echo (text : String)
  /-- A command for the other side. -/
  | command (text : String)
  /-- A message about the script itself. -/
  | status (text : String)
  deriving DecidableEq, Repr

/-- How lines are matched: first the line, then what is looked for. -/
structure Matcher where
  literal : String → String → Option Captures
  regex : String → String → Option Captures

namespace Matcher

/-- Literal search, and patterns that are compiled anew for every line; one that cannot be compiled
is not found. -/
def ofEngine (P : Type) [PatternEngine P] : Matcher where
  literal line target := Pattern.findLiteral? target line
  regex line src := (PatternEngine.compile? (P := P) src).bind (PatternEngine.find? · line)

/-- Literal search, and the notation of regular patterns. -/
def bundled : Matcher :=
  ofEngine Pattern

end Matcher

/-- Settings shared by all scripts. -/
structure Settings where
  /-- The number of jumps in a row after which a script is taken to be stuck. -/
  loopLimit : Nat := 500
  /-- Jumps at least so many nanoseconds apart are not in a row. -/
  loopWindow : Nat := 100000000
  /-- The number of subroutines that may be open at once. -/
  maxGosubs : Nat := 100
  /-- How much a script tells about itself when it starts. -/
  debugLevel : Nat := 0
  deriving DecidableEq, Repr

/-- What surrounds a script while it runs.  Time is in nanoseconds. -/
structure Env where
  globals : Store := .empty
  host : Host := Host.bundled
  matcher : Matcher := .bundled
  settings : Settings := {}
  /-- The numbers that are drawn at random. -/
  draws : Draws := .ofSeed 0
  /-- What the clock shows when a script reads it for the first time, for the second time, and so
  on. -/
  ticks : List Nat := []
  /-- What the clock shows behind these readings. -/
  now : Nat := 0

/-- What the clock shows to a script that has read it so many times before. -/
def Env.clock (env : Env) (readings : Nat) : Nat :=
  env.ticks.getD readings env.now

end StreamScript
