import StreamScript.Number.Integer
import StreamScript.Text.LetterCase
import StreamScript.Vars.Store

/-!
# Variables files

A variables file gives the global variables their values before any script runs.
It holds one order per line, `#var` with a name and a value, each of them in
braces or bare; a bare value is the rest of the line.  Every other line is passed
over.  An order that cannot be understood is reported and the file is read on.
-/

namespace StreamScript

open Text Number

/-- What can be wrong with a `#var` order. -/
inductive VarError where
  | noName
  | unclosedGroup
  deriving DecidableEq, Repr

/-- The wording of an error in an order. -/
def VarError.message : VarError → String
  | .noName => "#var: requires a name"
  | .unclosedGroup => "#var: unterminated `\x7b`"

/-- An error with the number of its line. -/
structure LineError where
  line : Nat
  cause : VarError
  deriving DecidableEq, Repr

/-- An error with its line, as it is shown. -/
def LineError.describe (e : LineError) : String :=
  "line " ++ String.ofList (natText e.line) ++ ": " ++ e.cause.message

/-- The values a variables file gives, in its order. -/
structure VariablesFile where
  vars : List (String × String) := []
  deriving DecidableEq, Repr

namespace VariablesFile

/-- Reads a group up to the brace that closes it; `depth` braces are open within it. -/
def insideGroup (depth : Nat) : List Char → Option (List Char × List Char)
  | [] => none
  | c :: rest =>
      let keep (found : Option (List Char × List Char)) : Option (List Char × List Char) :=
        found.map fun (inside, after) => (c :: inside, after)
      if c = '\x7b' then keep (insideGroup (depth + 1) rest)
      else if c = '\x7d' then
        if depth = 0 then some ([], rest) else keep (insideGroup (depth - 1) rest)
      else keep (insideGroup depth rest)

/-- Reads a group in braces, trimmed, or a bare word. -/
def readGroup (cs : List Char) : Except VarError (List Char × List Char) :=
  match trimStart cs with
  | '\x7b' :: rest =>
      match insideGroup 0 rest with
      | some (inside, after) => .ok (trim inside, after)
      | none => .error .unclosedGroup
  | cs => .ok (nextWord cs)

/-- Reads what follows `#var`: a name and a value. -/
def readVar (cs : List Char) : Except VarError (String × String) := do
  let (name, rest) ← readGroup cs
  if name.isEmpty then throw .noName
  match trimStart rest with
  | '\x7b' :: _ =>
      let (value, _) ← readGroup rest
      return (String.ofList name, String.ofList value)
  | _ => return (String.ofList name, String.ofList (trim rest))

/-- Reads a line; `none` when it holds no order. -/
def readLine? (line : List Char) : Option (Except VarError (String × String)) :=
  match trim line with
  | '#' :: rest =>
      let (word, args) := nextWord rest
      if eqIgnoringCase word ['v', 'a', 'r'] then some (readVar args) else none
  | _ => none

/-- Reads the lines of a file from a number on. -/
def readLines (number : Nat) : List (List Char) → List (String × String) × List LineError
  | [] => ([], [])
  | line :: rest =>
      let (vars, errors) := readLines (number + 1) rest
      match readLine? line with
      | none => (vars, errors)
      | some (.ok var) => (var :: vars, errors)
      | some (.error cause) => (vars, ⟨number, cause⟩ :: errors)

/-- Reads a file: the values it gives, and what is wrong with it. -/
def read (text : String) : VariablesFile × List LineError :=
  let (vars, errors) := readLines 1 (lines text.toList)
  (⟨vars⟩, errors)

/-- The value that a file gives a name last. -/
def get? (file : VariablesFile) (name : String) : Option String :=
  file.vars.reverse.lookup name

/-- The variables every session starts with. -/
def defaults : List (String × String) :=
  [("prompt", ">"), ("lefthand", "Empty"), ("righthand", "Empty"), ("preparedspell", "None"),
   ("tdp", "0")]

/-- Gives a store its values: the usual ones, then those of the file; a session starts without
roundtime. -/
def apply (file : VariablesFile) (store : Store) : Store :=
  ((store.setAll defaults).setAll file.vars).setAll [("roundtime", "0")]

end VariablesFile

end StreamScript
