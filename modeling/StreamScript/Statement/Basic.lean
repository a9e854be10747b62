import StreamScript.Expr.Phrase

/-!
# Statements

A script is a list of lines, and a line holds at most one statement.  A
conditional comes in three layouts: its body follows in a block whose brace ends
the line, in a block whose brace stands on the next line, or on the line itself.
The layout does not depend on what is tested, so a conditional is a head and a
layout.
-/

namespace StreamScript

/-- What a conditional tests, and where in its chain it stands. -/
inductive Head where
  /-- `if` with a condition. -/
  | ifHolds (condition : Phrase)
  /-- `if_N`: the script was given at least so many arguments. -/
  | ifArgs (count : Nat)
  /-- `else if` with a condition. -/
  | elseIf (condition : Phrase)
  /-- `else`. -/
  | otherwise
  deriving DecidableEq, Repr

/-- Where the brace of a block stands. -/
inductive BracePlace where
  | here
  | nextLine
  deriving DecidableEq, Repr

/-- One statement. -/
inductive Statement where
  /-- A conditional whose body is a block. -/
  | block (head : Head) (brace : BracePlace)
  /-- A conditional whose body stands on the same line. -/
  | single (head : Head) (body : Statement)
  | leftBrace
  | rightBrace
  | label (name : String)
  | comment (text : String)
  | goto (label args : String)
  | gosub (label args : String)
  | leave
  | exit
  | shift
  | nextRoom
  | debug (level : String)
  | echo (text : String)
  | put (text : String)
  | send (text : String)
  | printBox (text : String)
  | move (text : String)
  | save (text : String)
  | setVar (name value : String)
  | unsetVar (name : String)
  | math (var op number : String)
  | random (lo hi : String)
  | eval (var : String) (phrase : Phrase)
  | evalMath (var : String) (phrase : Phrase)
  | pause (seconds : String)
  | matchText (label text : String)
  | matchRegex (label pattern : String)
  | matchWait (timeout : String)
  | waitFor (text : String)
  | waitForRegex (pattern : String)
  | waitPrompt (text : String)
  | waitEval (phrase : Phrase)
  | action (name command pattern : String)
  | toggleAction (name : String) (on : Bool)
  deriving DecidableEq, Repr

namespace Statement

/-- The name of a statement's kind. -/
def kind : Statement → String
  | .block (.ifHolds _) .here => "if"
  | .block (.ifHolds _) .nextLine => "ifneedsbrace"
  | .block (.ifArgs _) .here => "ifarg"
  | .block (.ifArgs _) .nextLine => "ifargneedsbrace"
  | .block (.elseIf _) .here => "elseif"
  | .block (.elseIf _) .nextLine => "elseifneedsbrace"
  | .block .otherwise .here => "else"
  | .block .otherwise .nextLine => "elseneedsbrace"
  | .single (.ifHolds _) _ => "ifsingle"
  | .single (.ifArgs _) _ => "ifargsingle"
  | .single (.elseIf _) _ => "elseifsingle"
  | .single .otherwise _ => "elsesingle"
  | .leftBrace => "leftbrace"
  | .rightBrace => "rightbrace"
  | .label _ => "label"
  | .comment _ => "comment"
  | .goto .. => "goto"
  | .gosub .. => "gosub"
  | .leave => "return"
  | .exit => "exit"
  | .shift => "shift"
  | .nextRoom => "nextroom"
  | .debug _ => "debug"
  | .echo _ => "echo"
  | .put _ => "put"
  | .send _ => "send"
  | .printBox _ => "printbox"
  | .move _ => "move"
  | .save _ => "save"
  | .setVar .. => "var"
  | .unsetVar _ => "unvar"
  | .math .. => "math"
  | .random .. => "random"
  | .eval .. => "eval"
  | .evalMath .. => "evalmath"
  | .pause _ => "pause"
  | .matchText .. => "match"
  | .matchRegex .. => "matchre"
  | .matchWait _ => "matchwait"
  | .waitFor _ => "waitfor"
  | .waitForRegex _ => "waitforre"
  | .waitPrompt _ => "wait"
  | .waitEval _ => "waiteval"
  | .action .. => "action"
  | .toggleAction .. => "actiontoggle"

/-- Whether two statements, or their absences, are of one kind; what they carry does not matter. -/
def sameKind (a b : Option Statement) : Bool :=
  a.map kind == b.map kind

/-- Whether a statement starts a chain of conditionals. -/
def startsChain : Statement → Bool
  | .block (.ifHolds _) _ | .block (.ifArgs _) _ => true
  | .single (.ifHolds _) _ | .single (.ifArgs _) _ => true
  | _ => false

/-- Whether a statement continues a chain of conditionals. -/
def isElse : Statement → Bool
  | .block (.elseIf _) _ | .block .otherwise _ => true
  | .single (.elseIf _) _ | .single .otherwise _ => true
  | _ => false

/-- Whether a statement is a conditional. -/
def isConditional (s : Statement) : Bool :=
  s.startsChain || s.isElse

/-- Whether a statement is a conditional with its body on the same line. -/
def isSingle : Statement → Bool
  | .single .. => true
  | _ => false

/-- Whether a statement is a conditional with a block. -/
def opensBlock : Statement → Bool
  | .block .. => true
  | _ => false

end Statement

end StreamScript
