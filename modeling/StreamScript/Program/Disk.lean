import StreamScript.Program.Source

/-!
# A tree of files

Files with their bytes under paths relative to one directory.  A path is followed
step by step, and every step but the last has to lead into a directory that is
there.  Nothing above the directory can be seen.
-/

namespace StreamScript

open Text

/-- Files below one directory, by their normal paths. -/
structure Disk where
  files : Bindings ByteArray

namespace Disk

/-- The steps of a path. -/
def steps (path : String) : List String :=
  (splitAt '/' path.toList).map String.ofList

/-- The path of the given steps. -/
def pathOf (steps : List String) : String :=
  "/".intercalate steps

/-- A disk with the given files. -/
def ofFiles (files : List (String × ByteArray)) : Disk where
  files := .ofList (files.map fun f =>
    (pathOf ((steps f.1).filter fun s => s != "" && s != "."), f.2))

/-- Whether there is a directory at the end of some steps: it is the top, or a file lies below it.
-/
def isDirectory (disk : Disk) (place : List String) : Bool :=
  place.isEmpty || disk.files.keys.any fun p => (pathOf place ++ "/").toList.isPrefixOf p.toList

/-- Whether there is a file at the end of some steps. -/
def isFile (disk : Disk) (place : List String) : Bool :=
  disk.files.contains (pathOf place)

/-- Follows a path from a place; the result is where it ends. -/
def follow (disk : Disk) (place : List String) : List String → Except FileError (List String)
  | [] => .ok place
  | step :: rest =>
      if disk.isFile place then .error .notDirectory
      else if !disk.isDirectory place then .error .missing
      else if step = "" ∨ step = "." then follow disk place rest
      else if step = ".." then
        if place.isEmpty then .error .missing else follow disk place.dropLast rest
      else follow disk (place ++ [step]) rest

/-- The file that a path leads to. -/
def locate (disk : Disk) (path : String) : Except FileError String := do
  if path.isEmpty || path.startsWith "/" then throw .missing
  let finish ← disk.follow [] (steps path)
  if disk.isFile finish then return pathOf finish
  if disk.isDirectory finish then throw .isDirectory
  throw .missing

/-- The bytes of the file that a path leads to. -/
def read (disk : Disk) (path : String) : Except FileError ByteArray := do
  let file ← disk.locate path
  match disk.files.get? file with
  | some bytes => return bytes
  | none => throw .missing

/-- The text of the file that a path leads to. -/
def readText (disk : Disk) (path : String) : Except FileError String := do
  let bytes ← disk.read path
  match String.fromUTF8? bytes with
  | some text => return text
  | none => throw .notText

/-- The scripts in a folder. -/
def source (disk : Disk) (folder : Folder) : Source where
  key? name := (disk.locate (folder.path name)).toOption
  texts := .ofList (disk.files.toList.map fun f => (f.1, Content.ofBytes f.2))

end Disk

end StreamScript
