import StreamScript.Program.Source
import StreamScript.Statement.Reader

/-!
# Programs

A program is what remains of a script after its includes have been put in: the
lines that are not blank, each with the file and number it came from, and a table
of the labels they declare.  A label that is declared twice stands for its last
line.

A line carries its statement, so it is read once and not whenever it is reached.
-/

namespace StreamScript

open Text

/-- A line of a program. -/
structure Line where
  /-- The trimmed text. -/
  text : String
  /-- The stem of the script it comes from. -/
  file : String
  /-- Its number there, from one. -/
  number : Nat
  statement? : Option Statement := Statement.read? text
  statement?_eq : statement? = Statement.read? text := by rfl

namespace Line

/-- The line that has some text, with the statement that the text holds. -/
def ofText (file : String) (number : Nat) (text : String) : Line :=
  ⟨text, file, number, _, rfl⟩

/-- Whether a line starts with a brace that closes a block. -/
def closesBlock (line : Line) : Bool :=
  line.text.toList.head? == some '\x7d'

/-- Where a line comes from, as diagnostics show it. -/
def location (line : Line) : String :=
  "[" ++ line.file ++ "(" ++ String.ofList (Number.natText line.number) ++ ")]"

end Line

/-- Where a label is declared: the index of its line, and the file of that line. -/
structure Label where
  line : Nat
  file : String
  deriving DecidableEq, Repr

namespace Label

/-- The labels of the lines from an index on. -/
def declared (idx : Nat) : List Line → List (String × Label)
  | [] => []
  | line :: rest =>
      match labelName? line.text with
      | some name => (name, ⟨idx, line.file⟩) :: declared (idx + 1) rest
      | none => declared (idx + 1) rest

/-- The table of the labels that lines declare. -/
def table (lines : List Line) : Bindings Label :=
  .ofList (declared 0 lines)

end Label

/-- A script ready to run. -/
structure Program where
  name : String
  lines : Array Line
  labels : Bindings Label := Label.table lines.toList
  labels_eq : labels = Label.table lines.toList := by rfl

namespace Program

/-- The statement on the line with an index, if there is one. -/
def statement? (program : Program) (idx : Nat) : Option Statement :=
  program.lines[idx]?.bind (·.statement?)

/-- The label of a name, in any case. -/
def label? (program : Program) (name : String) : Option Label :=
  program.labels.get? (String.ofList (lowercase name.toList))

end Program

end StreamScript
