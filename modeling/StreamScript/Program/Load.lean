import StreamScript.Program.Basic
import StreamScript.Text.Quotes

/-!
# Loading programs

The lines of an included script stand where the include stood.  While a script is
being put in, an include of it is passed over, whatever the case of its name; so
are includes of scripts that cannot be loaded.  Every script being put in was named
by a different line, hence nesting is no deeper than the source has lines, and
that bound is what the recursion runs on.
-/

namespace StreamScript

open Text

namespace Program

/-- The name behind the word `include`. -/
def includeTarget? (cs : List Char) : Option String :=
  let word := cs.takeWhile (!isBlank ·)
  match cs.dropWhile (!isBlank ·) with
  | [] => none
  | _ :: rest =>
      if eqIgnoringCase word "include".toList then
        let target := trim (stripQuotes (trim rest))
        if target.isEmpty then none else some (String.ofList target)
      else none

/-- The lines that one line of a script stands for.  `expanding` holds the scripts being put in,
in small letters, and `inner` gives the lines of another script. -/
def mergeLine (source : Source) (expanding : List String) (inner : String → List String → List Line)
    (file : String) (number : Nat) (raw : String) : List Line :=
  let cs := trim raw.toList
  if cs.isEmpty then []
  else
    match includeTarget? cs with
    | none => [.ofText file number (String.ofList cs)]
    | some target =>
        let name := stemOf scriptExtension target
        if expanding.contains (lowered name) then []
        else
          match source.load name with
          | .ok text => inner name text
          | .error _ => []

/-- The lines of a script with its includes put in, `depth` deep at most. -/
def expand (source : Source) : Nat → List String → String → List String → List Line
  | 0, _, _, _ => []
  | depth + 1, outer, file, text =>
      let expanding := lowered file :: outer
      (text.zipIdx 1).flatMap fun e =>
        mergeLine source expanding (expand source depth expanding) file e.2 e.1

/-- **Loads a script and all it includes.** -/
def load (source : Source) (name : String) : Except LoadError Program := do
  let stem := stemOf scriptExtension name
  let text ← source.load stem
  return { name := stem, lines := (expand source (source.lineCount + 1) [] stem text).toArray }

/-- The names that the lines of a text include. -/
def includes (text : List String) : List String :=
  text.filterMap fun raw => (includeTarget? (trim raw.toList)).map (stemOf scriptExtension)

end Program

end StreamScript
