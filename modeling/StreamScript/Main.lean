import StreamScript.CommandLine

/-!
# The program

The outermost layer: it reads files, the environment and the clock, gets a seed for
random numbers, hands all this to the command line, and writes what comes of it.  A
thread of its own reads the input, because timers have to run out while no line comes
in.
-/

namespace StreamScript.Main

open CommandLine

/-- The bytes of a file. -/
def readBytes (path : String) : IO (Except FileError ByteArray) := do
  try
    return .ok (← IO.FS.readBinFile path)
  catch e =>
    match e with
    | .inappropriateType .. => return .error .isDirectory
    | _ => return .error .missing

/-- The text of a file. -/
def readText (path : String) : IO (Except FileError String) := do
  match ← readBytes path with
  | .error cause => return .error cause
  | .ok bytes =>
      match String.fromUTF8? bytes with
      | some text => return .ok text
      | none => return .error .notText

/-- Reads the scripts of the given names and all they include; `known` holds what has been read. -/
partial def gather (folder : Folder) (known : List (String × Content)) :
    List String → IO (List (String × Content))
  | [] => return known
  | name :: rest => do
      let path := folder.path name
      if (known.lookup path).isSome then
        gather folder known rest
      else
        match ← readBytes path with
        | .error _ => gather folder known rest
        | .ok bytes =>
            let content := Content.ofBytes bytes
            let included := match content with
              | .ok text => Program.includes text
              | .error _ => []
            gather folder ((path, content) :: known) (included ++ rest)

/-- A seed that is another one whenever the program runs. -/
def seed : IO UInt64 := do
  let bytes ← IO.getRandomBytes 8
  return bytes.toList.foldl (fun seed byte => seed * 256 + byte.toUInt64) 0

/-- The surroundings of this process, as far as a command line reaches. -/
def surroundings (args : List String) : IO Surroundings := do
  let home := (← IO.getEnv "HOME").getD ""
  let data := (← IO.getEnv "XDG_DATA_HOME").filter (·.startsWith "/")
  let empty : Surroundings :=
    { scriptDir? := ← IO.getEnv "MUDSCRIPT_DIR"
      dataDir := data.getD (joinPath home ".local/share")
      readText := fun _ => .error .missing
      source := fun _ => Source.ofScripts []
      draws := .ofSeed (← seed) }
  match parse args with
  | .error _ => return empty
  | .ok opts =>
      let vars ← match opts.varsFile? with
        | some path => readText path
        | none => pure (.error .missing)
      let folder : Folder := { dir := empty.resolveDir opts.scriptDir? }
      let known ← gather folder [] [stemOf scriptExtension opts.script]
      return { empty with
        readText := fun _ => vars
        source := fun folder => ⟨fun name => some (folder.path name), Bindings.ofList known⟩ }

/-- Writes the events of a script from a place in its log on. -/
def write (script : Script) (seen : Nat) : IO Unit := do
  let out ← IO.getStdout
  let err ← IO.getStderr
  for event in script.log.toList.drop seen do
    match event with
    | .command text => out.putStrLn text
    | .echo text => err.putStrLn text
    | .status text => err.putStrLn text
  out.flush

/-- Reads the input line by line into a queue; `none` marks its end, or a line that is no text. -/
partial def readInput (queue : IO.Ref (List (Option String))) : IO Unit := do
  let line ← try (← IO.getStdin).getLine catch _ => pure ""
  if line.isEmpty then
    queue.modify (· ++ [none])
  else
    queue.modify (· ++ (inputLines line.toUTF8).map some)
    readInput queue

/-- Hands lines and time to a session until its script has ended. -/
partial def serve (queue : IO.Ref (List (Option String))) (session : Session) : IO Unit := do
  if session.script.isStopped then return
  let seen := session.script.log.size
  let env := { session.env with now := ← IO.monoNanosNow }
  let session := { session with env := env, script := session.script.onTimer env }
  let next ← queue.modifyGet fun lines => (lines.head?, lines.tail)
  let session := match next with
    | none => session
    | some none => session.close
    | some (some line) => session.feed line
  write session.script seen
  if next.isNone then IO.sleep 5
  serve queue session

end StreamScript.Main

open StreamScript in
/-- Runs the script that the command line names. -/
def main (args : List String) : IO UInt32 := do
  match CommandLine.start (← Main.surroundings args) args with
  | .error failure =>
      let err ← IO.getStderr
      for line in failure.lines do err.putStrLn line
      return 1
  | .ok session =>
      Main.write session.script 0
      let queue ← IO.mkRef []
      let _ ← IO.asTask (Main.readInput queue) .dedicated
      Main.serve queue session
      return 0
