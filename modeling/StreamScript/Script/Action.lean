import StreamScript.Text.Trim

/-!
# Actions

An action is a standing order: whenever a line matches its pattern, its commands
are carried out.  The commands are divided by semicolons; a semicolon behind a
backslash belongs to a command.
-/

namespace StreamScript

open Text

/-- A standing order of a script. -/
structure Action where
  name : String
  command : String
  pattern : String
  enabled : Bool := true
  deriving DecidableEq, Repr

namespace Action

/-- A command, trimmed, unless it is blank. -/
def commandIfAny (cs : List Char) : List String :=
  let cs := trim cs
  if cs.isEmpty then [] else [String.ofList cs]

/-- The commands in a text; `current` is the one being read, the latest character first. -/
def commandsFrom (current : List Char) : List Char → List String
  | [] => commandIfAny current.reverse
  | '\\' :: ';' :: rest => commandsFrom (';' :: current) rest
  | c :: rest =>
      if c = ';' then commandIfAny current.reverse ++ commandsFrom [] rest
      else commandsFrom (c :: current) rest

/-- The commands in a text. -/
def splitCommands (text : String) : List String :=
  commandsFrom [] text.toList

end Action

end StreamScript
