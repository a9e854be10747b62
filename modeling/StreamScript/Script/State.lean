import StreamScript.Pattern.LiteralSet
import StreamScript.Script.Action
import StreamScript.Script.Env
import StreamScript.Script.Guard
import StreamScript.Script.Scopes
import StreamScript.Script.Walk

/-!
# The state of a script

A script runs until a line makes it wait.  A wait is kept as part of the state
and ends when the event it names arrives; a timer is kept beside it, since a
script may wait for a match and a time at once.

What a script sends out is appended to its log, so that a run is a function from
states to states.
-/

namespace StreamScript

open Text Number

/-- The life of a script. -/
inductive Phase where
  | notStarted
  | running
  | paused
  | stopped
  deriving DecidableEq, Repr

/-- What a script waits for. -/
inductive Wait where
  | text (target : String)
  | regex (pattern : String)
  | prompt
  | holds (condition : Phrase)
  | roomChange
  | someMatch
  deriving Repr

/-- What happens when a timer runs out. -/
inductive TimerKind where
  | pause
  | roundtime
  | matchTimeout
  deriving DecidableEq, Repr

/-- A timer. -/
structure Timer where
  deadline : Nat
  kind : TimerKind
  deriving DecidableEq, Repr

/-- Something to match, and the label to go to when it does. -/
inductive MatchEntry where
  | literal (label text : String)
  | regex (label pattern : String)
  deriving DecidableEq, Repr

/-- The label of an entry. -/
def MatchEntry.label : MatchEntry → String
  | .literal label _ => label
  | .regex label _ => label

/-- The literal entries, gathered when a wait for matches begins. -/
structure MatchSet where
  literals : LiteralSet
  /-- The place of each of them among all entries. -/
  places : List Nat
  deriving DecidableEq, Repr

namespace MatchSet

/-- The literal entries of a list with their places, the first of which is given. -/
def literalsFrom (idx : Nat) : List MatchEntry → List (String × Nat)
  | [] => []
  | .literal _ text :: rest => (text, idx) :: literalsFrom (idx + 1) rest
  | .regex .. :: rest => literalsFrom (idx + 1) rest

/-- The literal entries of a list, unless there are none. -/
def ofEntries? (entries : List MatchEntry) : Option MatchSet :=
  match literalsFrom 0 entries with
  | [] => none
  | found => some ⟨⟨found.map (·.1)⟩, found.map (·.2)⟩

/-- The place of the first literal entry that a line satisfies. -/
def firstPlace? (set : MatchSet) (line : String) : Option Nat :=
  (set.literals.firstMatch? line).bind fun i => set.places[i]?

end MatchSet

/-- What a subroutine restores when it returns. -/
structure Gosub where
  /-- The index of the line to run next. -/
  next : Nat
  labelVars : Scope
  ifs : List Frame

/-- How much a script tells about itself. -/
inductive DebugLevel where
  | quiet
  | gosubs
  | waits
  | conditions
  | variables
  | actions
  deriving DecidableEq, Repr

namespace DebugLevel

/-- A level as a number. -/
def rank : DebugLevel → Nat
  | .quiet => 0
  | .gosubs => 1
  | .waits => 2
  | .conditions => 3
  | .variables => 4
  | .actions => 5

/-- The level of a number; large numbers mean the highest. -/
def ofNumber : Nat → DebugLevel
  | 0 => .quiet
  | 1 => .gosubs
  | 2 => .waits
  | 3 => .conditions
  | 4 => .variables
  | _ => .actions

end DebugLevel

/-- A script and all there is to know about its run. -/
structure Script where
  walk : Walk
  scopes : Scopes
  phase : Phase := .notStarted
  /-- Whether the script should run on when it is no longer paused. -/
  resumePending : Bool := false
  debugLevel : DebugLevel := .quiet
  /-- The open subroutines, the innermost first. -/
  gosubs : List Gosub := []
  targets : List MatchEntry := []
  matchSet? : Option MatchSet := none
  wait? : Option Wait := none
  timer? : Option Timer := none
  actions : List Action := []
  guard : LoopGuard := {}
  /-- The lines run latest, the earliest first. -/
  trace : List String := []
  /-- How many random numbers were drawn. -/
  drawn : Nat := 0
  /-- How often the clock was read. -/
  readings : Nat := 0
  /-- All that was sent out. -/
  log : Array Event := #[]

namespace Script

/-- The number of lines that the trace keeps. -/
def traceLength : Nat := 50

/-- The longest wait, in seconds. -/
def maxWait : Float := 86400.0

/-- A script that has not started. -/
def ofProgram (program : Program) (settings : Settings) : Script where
  walk := { program := program }
  scopes := Scopes.ofName program.name
  debugLevel := DebugLevel.ofNumber settings.debugLevel

/-- The name of a script. -/
def name (s : Script) : String :=
  s.walk.program.name

/-- Whether a script has ended. -/
def isStopped (s : Script) : Bool :=
  s.phase == .stopped

/-- Whether a script waits for an event or a time. -/
def isWaiting (s : Script) : Bool :=
  s.wait?.isSome || s.timer?.isSome

/-- When a script wants to be woken. -/
def wakeup? (s : Script) : Option Nat :=
  if s.isStopped then none else s.timer?.map (·.deadline)

/-! ## Output -/

/-- Sends something out. -/
def emit (s : Script) (event : Event) : Script :=
  { s with log := s.log.push event }

/-- Sends a message about the script. -/
def status (s : Script) (text : String) : Script :=
  s.emit (.status text)

/-- Where the script is, as diagnostics show it. -/
def location (s : Script) : String :=
  match s.walk.line? with
  | some line => line.location
  | none => "[" ++ s.name ++ "]"

/-- Sends a message about the line that ran last. -/
def report (s : Script) (message : String) : Script :=
  s.status (s.location ++ ": " ++ message)

/-- Sends a message that only some levels of detail ask for. -/
def debug (s : Script) (level : DebugLevel) (message : String) : Script :=
  if level.rank ≤ s.debugLevel.rank ∧ 0 < level.rank then s.report message else s

/-! ## Variables and waits -/

/-- Puts variables into a text. -/
def substitute (s : Script) (env : Env) (text : String) : String :=
  s.scopes.substitute env.globals text

/-- Gives the script's own variable a value. -/
def setLocal (s : Script) (name value : String) : Script :=
  let s := s.debug .variables ("var " ++ name ++ " = " ++ value)
  { s with scopes := s.scopes.setLocal name value }

/-- Binds what a pattern captured. -/
def setCaptured (s : Script) (groups : Captures) : Script :=
  { s with scopes := { s.scopes with captured := Scope.indexed groups } }

/-- Gives up every wait. -/
def clearWaits (s : Script) : Script :=
  { s with wait? := none, timer? := none, targets := [], matchSet? := none }

/-- Ends a script: nothing it had armed is left. -/
def cancel (s : Script) : Script :=
  if s.isStopped then s
  else
    let s := { s.clearWaits with
      phase := .stopped, resumePending := false, actions := [], gosubs := [] }
    s.status ("[Script '" ++ s.name ++ "' completed]")

/-- Takes note of the line about to run. -/
def remember (s : Script) (line : Line) : Script :=
  let kept := if s.trace.length = traceLength then s.trace.tail else s.trace
  { s with trace := kept ++ [line.location ++ ": " ++ line.text] }

end Script

end StreamScript
