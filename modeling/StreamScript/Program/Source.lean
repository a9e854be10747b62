import StreamScript.Text.LetterCase
import StreamScript.Text.Trim
import StreamScript.Vars.Bindings

/-!
# Where script text comes from

Scripts go by their stems: `forage` and `forage.cmd` name the same one.  A source
holds finitely many texts, each under a key of its own, and knows which key a
name stands for.  A text may be there and still not be readable.
-/

namespace StreamScript

open Text

/-- The extension scripts have unless they are given another. -/
def scriptExtension : String := "cmd"

/-- A trimmed name without the extension, in whatever case it is written.  One extension is taken
off, not several. -/
def stemOf (extension name : String) : String :=
  let cs := trim name.toList
  let ending := '.' :: extension.toList
  let cut := cs.length - ending.length
  if ending.length ≤ cs.length && eqIgnoringCase (cs.drop cut) ending then
    String.ofList (cs.take cut)
  else String.ofList cs

/-- Why a file cannot be read. -/
inductive FileError where
  | missing
  | notDirectory
  | isDirectory
  | notText
  deriving DecidableEq, Repr

/-- The wording of a file error. -/
def FileError.message : FileError → String
  | .missing => "No such file or directory (os error 2)"
  | .notDirectory => "Not a directory (os error 20)"
  | .isDirectory => "Is a directory (os error 21)"
  | .notText => "stream did not contain valid UTF-8"

/-- Why a script cannot be loaded. -/
inductive LoadError where
  | notFound (name : String)
  | unreadable (name : String) (cause : FileError)
  deriving DecidableEq, Repr

/-- The wording of a load error. -/
def LoadError.message : LoadError → String
  | .notFound name => "script '" ++ name ++ "' not found"
  | .unreadable name cause => "could not read '" ++ name ++ "': " ++ cause.message

/-- What a source holds under a key: lines, or the reason why there are none. -/
abbrev Content : Type := Except FileError (List String)

/-- The content of a file that holds the given bytes. -/
def Content.ofBytes (bytes : ByteArray) : Content :=
  match String.fromUTF8? bytes with
  | some text => .ok ((lines text.toList).map String.ofList)
  | none => .error .notText

/-- A finite collection of script texts. -/
structure Source where
  /-- The key a name stands for, if it can stand for one. -/
  key? : String → Option String
  texts : Bindings Content

namespace Source

/-- What a source holds under a name. -/
def content? (source : Source) (name : String) : Option Content :=
  (source.key? name).bind source.texts.get?

/-- Whether a source holds anything under a name. -/
def contains (source : Source) (name : String) : Bool :=
  (source.content? name).isSome

/-- The lines under a name. -/
def load (source : Source) (name : String) : Except LoadError (List String) :=
  match source.content? name with
  | none => .error (.notFound name)
  | some (.error cause) => .error (.unreadable name cause)
  | some (.ok lines) => .ok lines

/-- The number of lines in all texts together. -/
def lineCount (source : Source) : Nat :=
  source.texts.entries.foldr (fun e n => match e.2 with
    | .ok lines => lines.length + n
    | .error _ => n) 0

/-- A source of texts that are kept under the stems of their names; a later one replaces an
earlier. -/
def ofScripts (scripts : List (String × List String)) : Source where
  key? name := some (stemOf scriptExtension name)
  texts := .ofList (scripts.map fun s => (stemOf scriptExtension s.1, .ok s.2))

end Source

/-! ## Folders -/

/-- A folder whose files with one extension are scripts. -/
structure Folder where
  dir : String
  extension : String := scriptExtension
  deriving DecidableEq, Repr

/-- A path followed from a directory; one that starts at the root is followed from there. -/
def joinPath (dir path : String) : String :=
  if path.startsWith "/" || dir.isEmpty then path
  else if dir.endsWith "/" then dir ++ path
  else dir ++ "/" ++ path

namespace Folder

/-- A folder whose scripts have the given extension, written with a dot or without. -/
def withExtension (dir extension : String) : Folder where
  dir := dir
  extension := String.ofList (extension.toList.dropWhile (· == '.'))

/-- The path of the file that a name stands for. -/
def path (folder : Folder) (name : String) : String :=
  joinPath folder.dir (stemOf folder.extension name ++ "." ++ folder.extension)

end Folder

end StreamScript
