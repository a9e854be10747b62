import StreamScript.Number.Integer
import StreamScript.Text.Quotes
import StreamScript.Text.Trim
import StreamScript.Vars.Store
import StreamScript.Vars.Substitution

/-!
# The variables of a running script

Besides the global variables a script sees its own, its arguments, the arguments
of the label it was last sent to, and what patterns captured.  Which of them a
sigil searches, and in which order, depends on who asks: the body of the script,
or the command of an action.

The arguments are kept three times: as a list, under their numbers, and as a
count.  All three are made from the list whenever it changes.
-/

namespace StreamScript

open Text Number

/-- The variables of one script. -/
structure Scopes where
  args : List String := []
  /-- The arguments by number; number zero is all of them. -/
  argVars : Scope := .empty
  /-- The script's own variables. -/
  locals : Scope := .empty
  /-- The arguments of the label last jumped to. -/
  labelVars : Scope := .empty
  /-- What the script's patterns captured. -/
  captured : Scope := .empty
  /-- What the pattern of an action captured. -/
  actionCaptured : Scope := .empty
  /-- Whether text is taken as it stands, because its variables have been put in before. -/
  verbatim : Bool := false

namespace Scopes

/-- The variables of a script before it starts. -/
def ofName (name : String) : Scopes where
  locals := Bindings.empty.insert "scriptname" name

/-- At least so many arguments can be asked for by number. -/
def minArgVars : Nat := 9

/-- The arguments by number. -/
def numbered (args : List String) : Scope :=
  let padding := List.replicate (minArgVars - args.length) ""
  let values := args.map fun a => String.ofList (stripQuotes a.toList)
  Scope.indexed (" ".intercalate args :: (values ++ padding))

/-- Gives a script its arguments. -/
def setArgs (s : Scopes) (args : List String) : Scopes :=
  { s with
    args := args
    argVars := numbered args
    locals := s.locals.insert "argcount" (String.ofList (natText args.length)) }

/-- Drops the first argument. -/
def shiftArgs (s : Scopes) : Scopes :=
  match s.args with
  | [] => s
  | _ :: rest => s.setArgs rest

/-- The variables for the arguments of a label: number zero is the whole text. -/
def labelScope (text : String) : Scope :=
  let cs := trim text.toList
  if cs.isEmpty then .empty
  else
    let words := (quotedWords cs).map fun w => String.ofList (stripQuotes w)
    Scope.indexed (String.ofList cs :: words)

/-- Gives a script the arguments of a label. -/
def setLabelArgs (s : Scopes) (text : String) : Scopes :=
  { s with labelVars := labelScope text }

/-- Gives the script's own variable a value. -/
def setLocal (s : Scopes) (name value : String) : Scopes :=
  { s with locals := s.locals.insert name value }

/-- Where the body of a script looks variables up. -/
def sigils (s : Scopes) (globals : Store) : Sigils :=
  ((((((({} : Sigils).register '$' s.captured.get?).register '$' s.labelVars.get?).register '$'
    globals.get?).register '%' s.locals.get?).register '%' s.argVars.get?).register '&'
    s.labelVars.get?)

/-- Where the command of an action looks variables up. -/
def actionSigils (s : Scopes) (globals : Store) : Sigils :=
  ((((({} : Sigils).register '$' s.actionCaptured.get?).register '$' globals.get?).register '%'
    s.locals.get?).register '%' s.argVars.get?)

/-- Puts variables into a text of the script's body. -/
def substitute (s : Scopes) (globals : Store) (text : String) : String :=
  if s.verbatim then text else (s.sigils globals).substitute text

/-- Puts variables into the command or pattern of an action. -/
def substituteAction (s : Scopes) (globals : Store) (text : String) : String :=
  (s.actionSigils globals).substitute text

theorem isSigil_sigils (s : Scopes) (globals : Store) (c : Char) :
    (s.sigils globals).isSigil c = ('$' == c || ('%' == c || '&' == c)) := by
  simp [sigils, Sigils.isSigil, Sigils.register]

/-- A text that refers to no variable stays as it is. -/
theorem substitute_eq_self (s : Scopes) (globals : Store) {text : String}
    (h : ∀ c ∈ text.toList, c ∉ ['$', '%', '&']) : s.substitute globals text = text := by
  have hsigils : (s.sigils globals).substitute text = text := by
    refine Sigils.substitute_eq_self (List.any_eq_false.mpr fun c hc => ?_)
    have hne := h c hc
    simp only [List.mem_cons, List.not_mem_nil, or_false, not_or] at hne
    simp [isSigil_sigils, Ne.symm hne.1, Ne.symm hne.2.1, Ne.symm hne.2.2]
  rw [substitute, hsigils, ite_self]

end Scopes

end StreamScript
