import StreamScript.Program.Load
import StreamScript.Script.Run
import StreamScript.Settings.VariablesFile

/-!
# The command line

One script is run on standard input: every line of it comes in as a line of the
stream, and one that ends in the prompt is followed by a prompt.  Commands go to
standard output, all else to the error output.

Flags stand in front of the name of the script; what follows it belongs to the
script.  Files are reached through what is known about the surroundings, so a
whole run can be followed without touching any.
-/

namespace StreamScript

open Text

namespace CommandLine

/-! ## Arguments -/

/-- What the command line asks for. -/
structure Options where
  scriptDir? : Option String := none
  varsFile? : Option String := none
  debug : Bool := false
  script : String := ""
  args : List String := []
  deriving DecidableEq, Repr

/-- What can be wrong with a command line. -/
inductive UsageError where
  | missingValue (flag : Char)
  | unknownFlag (flag : Char)
  | noScript
  deriving DecidableEq, Repr

/-- The wording of a usage error. -/
def UsageError.message : UsageError → String
  | .missingValue flag => "-" ++ flag.toString ++ " requires an argument"
  | .unknownFlag flag => "unknown option: -" ++ flag.toString
  | .noScript => "no script given"

/-- How the program is called. -/
def usage : String :=
  "Usage: mudscript [-s<dir>] [-V<varsfile>] [-d] <script> [args...]"

/-- Gives a flag that takes a value that value. -/
def Options.assign (opts : Options) (flag : Char) (value : String) : Options :=
  if flag = 's' then { opts with scriptDir? := some value }
  else { opts with varsFile? := some value }

/-- Reads the flags of one argument.  The value of a flag is the rest of the argument or, when
nothing is left of it, the next argument; `rest` holds the arguments that follow. -/
def readFlags (opts : Options) (rest : List String) :
    List Char → Except UsageError (Options × List String)
  | [] => .ok (opts, rest)
  | c :: more =>
      if c = 'd' then readFlags { opts with debug := true } rest more
      else if c = 's' ∨ c = 'V' then
        match more, rest with
        | _ :: _, rest => .ok (opts.assign c (String.ofList more), rest)
        | [], value :: rest => .ok (opts.assign c value, rest)
        | [], [] => .error (.missingValue c)
      else .error (.unknownFlag c)

theorem length_readFlags_le {opts opts' : Options} {rest rest' : List String} {cs : List Char}
    (h : readFlags opts rest cs = .ok (opts', rest')) : rest'.length ≤ rest.length := by
  induction cs generalizing opts with
  | nil =>
    simp only [readFlags, Except.ok.injEq, Prod.mk.injEq] at h
    exact Nat.le_of_eq (congrArg List.length h.2.symm)
  | cons c more ih =>
    simp only [readFlags] at h
    split at h
    · exact ih h
    · split at h
      · split at h
        · simp only [Except.ok.injEq, Prod.mk.injEq] at h
          exact Nat.le_of_eq (congrArg List.length h.2.symm)
        · simp only [Except.ok.injEq, Prod.mk.injEq] at h
          obtain ⟨-, rfl⟩ := h
          exact Nat.le_succ _
        · simp at h
      · simp at h

/-- Reads flags up to the first argument that holds none. -/
def readOptions (opts : Options) : (args : List String) → Except UsageError (Options × List String)
  | [] => .ok (opts, [])
  | arg :: rest =>
      if arg = "--" then .ok (opts, rest)
      else
        match arg.toList with
        | '-' :: c :: more =>
            match _h : readFlags opts rest (c :: more) with
            | .ok (opts, rest') => readOptions opts rest'
            | .error e => .error e
        | _ => .ok (opts, arg :: rest)
termination_by args => args.length
decreasing_by exact Nat.lt_succ_of_le (length_readFlags_le _h)

/-- Reads a command line. -/
def parse (args : List String) : Except UsageError Options := do
  let (opts, rest) ← readOptions {} args
  match rest with
  | [] => throw .noScript
  | script :: args => return { opts with script := script, args := args }

/-! ## Surroundings -/

/-- What a run finds around it. -/
structure Surroundings where
  /-- The directory that the environment names for scripts. -/
  scriptDir? : Option String := none
  /-- Where the data of programs is kept. -/
  dataDir : String
  readText : String → Except FileError String
  source : Folder → Source
  /-- The numbers that are drawn at random. -/
  draws : Draws := .ofSeed 0

/-- Where scripts are kept unless something else is said. -/
def Surroundings.usualDir (world : Surroundings) : String :=
  joinPath (joinPath world.dataDir "mudscript") "scripts"

/-- The directory of scripts: the one asked for, else the one the environment names, else the
usual one. -/
def Surroundings.resolveDir (world : Surroundings) (asked : Option String) : String :=
  match asked with
  | some dir => dir
  | none => ((world.scriptDir?).filter (· ≠ "")).getD world.usualDir

/-- Why a run cannot start. -/
inductive Failure where
  | usage (cause : UsageError)
  | varsFile (path : String) (cause : FileError)
  | load (cause : LoadError)
  deriving DecidableEq, Repr

/-- The lines that tell why a run cannot start. -/
def Failure.lines : Failure → List String
  | .usage cause => ["mudscript: " ++ cause.message, CommandLine.usage]
  | .varsFile path cause => ["mudscript: " ++ path ++ ": " ++ cause.message]
  | .load cause => ["mudscript: " ++ cause.message]

/-! ## Sessions -/

/-- A script on standard input. -/
structure Session where
  env : Env
  script : Script

/-- The variables that a variables file gives; without a file there are none. -/
def readVars (world : Surroundings) : Option String → Except Failure VariablesFile
  | none => .ok {}
  | some path =>
      match world.readText path with
      | .ok text => .ok (VariablesFile.read text).1
      | .error cause => .error (.varsFile path cause)

/-- Starts the script that a command line asks for. -/
def start (world : Surroundings) (args : List String) : Except Failure Session :=
  match parse args with
  | .error cause => .error (.usage cause)
  | .ok opts => do
      let vars ← readVars world opts.varsFile?
      let globals := vars.apply (Store.ofComputed Store.usualClock)
      let env : Env := { globals := globals, draws := world.draws }
      let folder : Folder := ⟨world.resolveDir opts.scriptDir?, scriptExtension⟩
      match Program.load (world.source folder) opts.script with
      | .error cause => .error (.load cause)
      | .ok program =>
          return ⟨env, (Script.ofProgram program env.settings).start env opts.args⟩

namespace Session

/-- Whether a line ends in the prompt, blanks aside. -/
def endsInPrompt (session : Session) (line : String) : Bool :=
  let prompt := ((session.env.globals.get? "prompt").getD "").toList
  !prompt.isEmpty && prompt.isSuffixOf (trimEnd line.toList)

/-- A line comes in. -/
def feed (session : Session) (line : String) : Session :=
  let script := session.script.onLine session.env line
  { session with
    script := if session.endsInPrompt line then script.onPrompt session.env else script }

/-- The input has ended. -/
def close (session : Session) : Session :=
  { session with script := session.script.cancel }

/-- Runs a session on its whole input. -/
def feedAll (session : Session) (lines : List String) : Session :=
  (lines.foldl feed session).close

end Session

/-! ## Input and output -/

/-- The lines of an input, each without its line end.  A line that ends with the input keeps a
carriage return; `current` is the line being read, the latest byte first. -/
def rawLines (current : List UInt8) : List UInt8 → List (List UInt8)
  | [] => if current.isEmpty then [] else [current.reverse]
  | b :: rest =>
      if b = 10 then
        let line := match current with
          | 13 :: front => front
          | _ => current
        line.reverse :: rawLines [] rest
      else rawLines (b :: current) rest

/-- The lines of an input up to the first that is no text. -/
def inputLines (input : ByteArray) : List String :=
  let decoded := (rawLines [] input.toList).map fun line => String.fromUTF8? ⟨line.toArray⟩
  (decoded.takeWhile Option.isSome).filterMap id

/-- What a run leaves behind. -/
structure Result where
  code : Nat
  out : String
  err : String
  deriving DecidableEq, Repr

/-- Lines as text. -/
def textOf (lines : List String) : String :=
  String.join (lines.map (· ++ "\n"))

/-- What an event writes to standard output. -/
def outLine? : Event → Option String
  | .command text => some text
  | _ => none

/-- What an event writes to the error output. -/
def errLine? : Event → Option String
  | .echo text => some text
  | .status text => some text
  | .command _ => none

/-- **A whole run**: the command line and all of the input, to what is written. -/
def run (world : Surroundings) (args : List String) (input : ByteArray) : Result :=
  match start world args with
  | .error failure => ⟨1, "", textOf failure.lines⟩
  | .ok session =>
      let log := (session.feedAll (inputLines input)).script.log.toList
      ⟨0, textOf (log.filterMap outLine?), textOf (log.filterMap errLine?)⟩

end CommandLine

end StreamScript
