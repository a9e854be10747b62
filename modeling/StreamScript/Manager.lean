import StreamScript.Program.Load
import StreamScript.Script.Run
import StreamScript.Text.Quoted

/-!
# Several scripts at once

A manager starts scripts and hands events on to them, in the order in which they
were started.  Every script is brought to rest before the next one is looked at:
a timer that has run out is seen to at once.

When time passes, the timers that have run out are seen to in the order of their
deadlines, counted in whole milliseconds; of those with one deadline the one that
was set first comes first.  A script sets its timer anew whenever it has handled
something.
-/

namespace StreamScript

open Text Number

/-- A script under management. -/
structure Task where
  id : Nat
  script : Script
  /-- Grows with every time a script sets its timer. -/
  stamp : Nat

namespace Task

/-- The name of the script. -/
def name (task : Task) : String :=
  task.script.name

/-- Whether the script has ended. -/
def isFinished (task : Task) : Bool :=
  task.script.isStopped

/-- Whether the timer of the script has run out. -/
def isDue (now : Nat) (task : Task) : Bool :=
  task.script.wakeup?.any (· ≤ now)

/-- The deadline of the script in whole milliseconds, rounded up. -/
def tick (task : Task) : Nat :=
  ((task.script.wakeup?.getD 0) + 999999) / 1000000

/-- Whether the timer of one script is seen to before that of another. -/
def isBefore (a b : Task) : Bool :=
  a.tick < b.tick || (a.tick == b.tick && a.stamp ≤ b.stamp)

/-- What stands for a script outside, as diagnostics show it. -/
def describe (id : Nat) (name : String) (finished : Bool) : String :=
  "RuntimeHandle \x7b id: " ++ String.ofList (natText id) ++ ", name: " ++ quoted name
    ++ ", finished: " ++ Value.boolText finished ++ " \x7d"

end Task

/-- Why a script cannot be reached. -/
structure NotRunning where
  name : String
  deriving DecidableEq, Repr

/-- The wording of the error that a script is not running. -/
def NotRunning.message (e : NotRunning) : String :=
  "script '" ++ e.name ++ "' is not running"

/-- Scripts that run side by side. -/
structure Manager where
  source : Source
  env : Env
  /-- All scripts in the order of their starts, those that have ended included. -/
  tasks : List Task := []
  nextId : Nat := 1
  nextStamp : Nat := 0
  /-- All that was sent out. -/
  log : Array Event := #[]

namespace Manager

/-- The scripts that have not ended. -/
def running (m : Manager) : List Task :=
  m.tasks.filter fun t => !t.isFinished

/-- The script with an id. -/
def task? (m : Manager) (id : Nat) : Option Task :=
  m.tasks.find? fun t => t.id == id

/-- The latest script of a name that has not ended; case does not matter. -/
def find? (m : Manager) (name : String) : Option Task :=
  m.running.reverse.find? fun t => sameName t.name name

/-- How often a script may be woken before it is left alone: one that keeps pausing for no time at
all never comes to rest. -/
def maxWakeups : Nat := 100000

/-- Sees to the timer of a script until it has not run out, so often at most. -/
def settle (env : Env) : Nat → Script → Script
  | 0, s => s
  | n + 1, s => if s.wakeup?.any (· ≤ env.now) then settle env n (s.onTimer env) else s

/-- Lets a script handle something, and collects what it sends out. -/
def handle (m : Manager) (call : Env → Script → Script) (id : Nat) : Manager :=
  match m.task? id with
  | none => m
  | some task =>
      if task.isFinished then m
      else
        let env := { m.env with draws := m.env.draws.share id }
        let script := settle env maxWakeups (call env task.script)
        let sent := script.log.extract task.script.log.size script.log.size
        let update (t : Task) : Task :=
          if t.id == id then { t with script := script, stamp := m.nextStamp } else t
        { m with
          tasks := m.tasks.map update
          nextStamp := m.nextStamp + 1
          log := m.log ++ sent }

/-- Lets every script that has not ended handle something. -/
def handleAll (m : Manager) (call : Env → Script → Script) : Manager :=
  (m.running.map (·.id)).foldl (fun m id => m.handle call id) m

/-- Loads a script and starts it.  The result is its id. -/
def start (m : Manager) (name : String) (args : List String) :
    Except LoadError (Nat × Manager) := do
  let program ← Program.load m.source name
  let task : Task := ⟨m.nextId, Script.ofProgram program m.env.settings, m.nextStamp⟩
  let m := { m with tasks := m.tasks ++ [task], nextId := m.nextId + 1 }
  return (task.id, m.handle (fun env s => s.start env args) task.id)

/-- Lets the latest script of a name handle something. -/
def handleNamed (m : Manager) (name : String) (call : Env → Script → Script) :
    Except NotRunning Manager :=
  match m.find? name with
  | some task => .ok (m.handle call task.id)
  | none => .error ⟨name⟩

/-- Lets time pass. -/
def advance (m : Manager) (nanos : Nat) : Manager :=
  let m := { m with env := { m.env with now := m.env.now + nanos } }
  let due := (m.running.filter (Task.isDue m.env.now)).mergeSort Task.isBefore
  (due.map (·.id)).foldl (fun m id => m.handle (fun env s => s.onTimer env) id) m

/-- Writes a global variable; the truth value tells whether that changed anything. -/
def setGlobal (m : Manager) (key value : String) : Bool × Manager :=
  let (change, globals) := m.env.globals.set key value
  (change.isSome, { m with env := { m.env with globals := globals } })

end Manager

end StreamScript
