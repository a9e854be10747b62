import StreamScript.Script.State

/-!
# Jumps

A jump leaves behind every wait, every open conditional and what patterns have
captured, and binds the arguments of the label.  A subroutine is a jump that can
be undone: returning restores the open conditionals and the label's arguments,
and runs on behind the line that called.

Every jump is counted by the loop guard, whose tripping ends the script.
-/

namespace StreamScript

open Text

/-- What becomes of a script after a statement. -/
inductive Flow where
  /-- The next line runs. -/
  | next
  /-- The script waits. -/
  | wait
  /-- The script ends. -/
  | exit
  /-- The block just opened is passed over. -/
  | skipBlock
  /-- The rest of the chain just closed is passed over. -/
  | skipChain
  deriving DecidableEq, Repr

/-- What a label is given: text to be split into arguments, or what a pattern captured. -/
inductive LabelArgs where
  | text (args : String)
  | groups (caps : Captures)
  deriving DecidableEq, Repr

namespace Script

/-- Tells the user that a script runs in circles, and shows the lines it ran latest. -/
def reportLoop (s : Script) : Script :=
  let s := s.report ("Possible infinite loop detected: "
    ++ String.ofList (Number.natText s.guard.count) ++ " label jumps without a wait. Last lines:")
  s.trace.foldl status s

/-- Counts a jump; the truth value tells whether the guard tripped. -/
def countJump (env : Env) (s : Script) : Bool × Script :=
  let now := env.clock s.readings
  let s := { s with
    guard := s.guard.record env.settings.loopWindow now, readings := s.readings + 1 }
  if s.guard.tripped env.settings.loopLimit then (true, s.reportLoop) else (false, s)

/-- Returns from a subroutine. -/
def leave (env : Env) (s : Script) : Flow × Script :=
  match s.gosubs with
  | [] => (.exit, s.report "no gosub to return to!")
  | frame :: outer =>
      match countJump env { s with gosubs := outer } with
      | (true, s) => (.exit, s)
      | (false, s) =>
          let s := { s with
            scopes := { s.scopes with labelVars := frame.labelVars }
            walk := { s.walk with ifs := frame.ifs }.moveTo frame.next }
          (.next, s.debug .gosubs "return")

/-- Binds the arguments of a label. -/
def bindLabelArgs (env : Env) (args : LabelArgs) (s : Script) : Script :=
  match args with
  | .text args => { s with scopes := s.scopes.setLabelArgs (s.substitute env args) }
  | .groups caps => { s with scopes := { s.scopes with labelVars := Scope.indexed caps } }

/-- Jumps to a label.  Where no label is called `return`, a jump to it returns from a subroutine. -/
def goto (env : Env) (label : String) (args : LabelArgs) (s : Script) : Flow × Script :=
  let label := String.ofList (lowercase (trim (s.substitute env label).toList))
  match s.walk.program.label? label with
  | none =>
      if label = "return" then leave env s
      else (.exit, s.report ("label '" ++ label ++ "' not found"))
  | some target =>
      match countJump env s with
      | (true, s) => (.exit, s)
      | (false, s) =>
          let s := s.clearWaits
          let s := { s with scopes := { s.scopes with captured := .empty } }
          let s := bindLabelArgs env args s
          let s := { s with walk := { s.walk with ifs := [] }.moveTo target.line }
          (.next, s.debug .gosubs ("goto " ++ label))

/-- Calls a subroutine.  The label `clear` forgets the open ones instead. -/
def gosub (env : Env) (label args : String) (s : Script) : Flow × Script :=
  if sameName label "clear" then (.next, { s with gosubs := [] })
  else if env.settings.maxGosubs ≤ s.gosubs.length then
    (.exit, s.report ("maximum gosub depth of "
      ++ String.ofList (Number.natText env.settings.maxGosubs) ++ " reached"))
  else
    let frame : Gosub := ⟨s.walk.next, s.scopes.labelVars, s.walk.ifs⟩
    match goto env label (.text args) s with
    | (.next, s) => (.next, { s with gosubs := frame :: s.gosubs })
    | (flow, s) => (flow, s)

end Script

end StreamScript
