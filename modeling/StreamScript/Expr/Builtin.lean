import StreamScript.Expr.Token
import StreamScript.Pattern.Basic

/-!
# Built-in functions

Functions take their arguments as text, variables already put in and quotes
taken off.  Names are compared without regard to the case of ASCII letters, and
two of the functions go by two names.  Only a match of a regular pattern
captures anything.
-/

namespace StreamScript

open Text

/-- The built-in functions. -/
inductive Builtin where
  | contains
  | count
  | countSplit
  | endsWith
  | length
  | matchRegex
  | replaceRegex
  | startsWith
  | toLower
  | toUpper
  | trim
  deriving DecidableEq, Repr

/-- A value together with what a pattern captured on the way to it. -/
structure Evaluated where
  value : Value
  groups : Captures := []
  deriving DecidableEq, Repr

namespace Builtin

/-- The names of the functions. -/
def names : List (String × Builtin) :=
  [("contains", contains), ("count", count), ("countsplit", countSplit), ("endswith", endsWith),
   ("len", length), ("length", length), ("matchre", matchRegex), ("replacere", replaceRegex),
   ("startswith", startsWith), ("tocaps", toUpper), ("tolower", toLower), ("toupper", toUpper),
   ("trim", trim)]

/-- The function a name stands for, in any case. -/
def ofName? (name : String) : Option Builtin :=
  names.lookup (lowered name)

/-- Whether a name stands for a function. -/
def isName (name : String) : Bool :=
  (ofName? name).isSome

/-- Takes exactly one argument. -/
def one (name : String) (args : List String) : Except ExprError String :=
  match args with
  | [a] => .ok a
  | _ => .error (.arity name 1 args.length)

/-- Takes exactly two arguments. -/
def two (name : String) (args : List String) : Except ExprError (String × String) :=
  match args with
  | [a, b] => .ok (a, b)
  | _ => .error (.arity name 2 args.length)

/-- Takes exactly three arguments. -/
def three (name : String) (args : List String) : Except ExprError (String × String × String) :=
  match args with
  | [a, b, c] => .ok (a, b, c)
  | _ => .error (.arity name 3 args.length)

/-- A compiled pattern, or the error that it is not one. -/
def needPattern (src : String) : Except ExprError Regex.Program :=
  match Pattern.compileRegex? src with
  | some prog => .ok prog
  | none => .error (.invalidPattern src)

/-- A count as a value. -/
def counted (n : Nat) : Evaluated :=
  { value := .int (Int64.ofNat n) }

/-- A truth as a value. -/
def decided (b : Bool) : Evaluated :=
  { value := .bool b }

/-- A text as a value. -/
def spelled (cs : List Char) : Evaluated :=
  { value := .text (String.ofList cs) }

/-- Calls a function under the name it was written with. -/
def call (f : Builtin) (name : String) (args : List String) : Except ExprError Evaluated :=
  match f with
  | .contains => do
      let (a, b) ← two name args
      return decided (occursIn b a)
  | .startsWith => do
      let (a, b) ← two name args
      return decided (b.toList.isPrefixOf a.toList)
  | .endsWith => do
      let (a, b) ← two name args
      return decided (b.toList.isSuffixOf a.toList)
  | .matchRegex => do
      let (text, pattern) ← two name args
      let prog ← needPattern pattern
      match prog.captures? text with
      | some groups => return { value := .bool true, groups := groups }
      | none => return decided false
  | .count => do
      let (a, b) ← two name args
      return counted (countFrom b.toList a.toList)
  | .countSplit => do
      let (a, b) ← two name args
      return counted (countFrom b.toList a.toList + 1)
  | .length => do
      let s ← one name args
      return counted s.toList.length
  | .toLower => do
      let s ← one name args
      return spelled (lowercase s.toList)
  | .toUpper => do
      let s ← one name args
      return spelled (uppercase s.toList)
  | .trim => do
      let s ← one name args
      return spelled (Text.trim s.toList)
  | .replaceRegex => do
      let (text, pattern, replacement) ← three name args
      let prog ← needPattern pattern
      return { value := .text (prog.replaceAll text replacement) }

/-- Calls the function a name stands for; `none` when it stands for none. -/
def callNamed? (name : String) (args : List String) : Option (Except ExprError Evaluated) :=
  (ofName? name).map fun f => f.call name args

end Builtin

/-! ## Arguments in text -/

namespace Arguments

/-- Splits at the commas outside quotes and parentheses.  `current` is the piece being read, the
latest character first; the result holds every piece untrimmed and is never empty. -/
def pieces (quoted escaped : Bool) (depth : Nat) (current : List Char) :
    List Char → List (List Char)
  | [] => [current.reverse]
  | c :: rest =>
      if escaped then pieces quoted false depth (c :: current) rest
      else if c = '\\' ∧ quoted then pieces quoted true depth (c :: current) rest
      else if c = '"' then pieces (!quoted) false depth (c :: current) rest
      else if c = '(' ∧ !quoted then pieces quoted false (depth + 1) (c :: current) rest
      else if c = ')' ∧ !quoted then pieces quoted false (depth - 1) (c :: current) rest
      else if c = ',' ∧ !quoted ∧ depth = 0 then
        current.reverse :: pieces quoted false depth [] rest
      else pieces quoted false depth (c :: current) rest

/-- The arguments in a text, trimmed, with their quotes.  Blank text holds none. -/
def split (raw : String) : List String :=
  match (pieces false false 0 [] raw.toList).map fun p => String.ofList (trim p) with
  | [""] => []
  | args => args

/-- Takes one pair of double quotes off a trimmed text. -/
def unquote (arg : String) : String :=
  let cs := trim arg.toList
  match cs with
  | '"' :: rest =>
      if rest.getLast? = some '"' then String.ofList rest.dropLast else String.ofList cs
  | _ => String.ofList cs

end Arguments

end StreamScript
