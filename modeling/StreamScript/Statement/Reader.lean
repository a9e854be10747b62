import StreamScript.Number.Integer
import StreamScript.Statement.Basic

/-!
# Reading statements

The first word of a line decides what the rest of it means.  Words are compared
without regard to the case of ASCII letters; `if` and `else` need not be followed
by a blank.  A line whose first word is unknown, or that lacks what its word
needs, holds no statement.

The body of a conditional on one line is read as a line of its own.  It is
shorter than the line it stands on, which is what makes reading end.
-/

namespace StreamScript

open Text Number

/-! ## Labels -/

/-- Characters of a label. -/
def isLabelChar (c : Char) : Bool :=
  isAlphanumeric c || c == '_' || c == '.' || c == '-'

/-- The label that a word ending in a colon declares, as it is written. -/
def labelOfWord? (word : List Char) : Option (List Char) :=
  match word.getLast? with
  | some ':' =>
      let name := word.dropLast
      if !name.isEmpty && name.all isLabelChar then some name else none
  | _ => none

/-- The label that a line declares, in small letters. -/
def labelName? (line : String) : Option String :=
  (labelOfWord? (nextWord line.toList).1).map fun name => String.ofList (lowercase name)

namespace Statement

/-! ## Pieces of a line -/

/-- What follows a given word at the front, in any case; the word need not end there. -/
def afterText? (text : String) (cs : List Char) : Option (List Char) :=
  let ts := text.toList
  if eqIgnoringCase (cs.take ts.length) ts then some (cs.drop ts.length) else none

/-- Skips white space and the word `then`. -/
def skipThen (cs : List Char) : List Char :=
  let cs := trimStart cs
  if Phrase.startsWithThen cs then cs.drop 4 else cs

/-- A trimmed piece of a line. -/
def piece (cs : List Char) : String :=
  String.ofList (trim cs)

/-- The phrase at the front of a text; a blank one is the empty text. -/
def phraseOf (r : Phrase.Reading) : Phrase :=
  r.phrase?.getD (.text "")

/-- The number of arguments that a word such as `if_3` asks for.  The digits end the word, or a
brace follows them. -/
def argCount? (word : List Char) : Option Nat :=
  (afterText? "if_" word).bind fun rest =>
    let digits := rest.takeWhile Char.isDigit
    match rest.dropWhile Char.isDigit with
    | [] => readNat? maxCount digits
    | '\x7b' :: _ => readNat? maxCount digits
    | _ => none

/-- Cuts a text at the first place where `word` stands alone, in any case.  `fresh` tells whether
a word may begin at the front. -/
def cutAtWord? (word : List Char) (fresh : Bool) : List Char → Option (List Char × List Char)
  | [] => none
  | c :: rest =>
      let cs := c :: rest
      let ends := match (cs.drop word.length).head? with
        | none => true
        | some d => isBlank d
      if fresh && eqIgnoringCase (cs.take word.length) word && ends then
        some ([], cs.drop word.length)
      else
        (cutAtWord? word (isBlank c) rest).map fun (front, back) => (c :: front, back)

/-! ## Conditionals -/

/-- A conditional with the body that follows its head; `inner` reads a body on the same line. -/
def withBody? (inner : List Char → Option Statement) (head : Head) (cs : List Char) :
    Option Statement :=
  match trim cs with
  | [] => some (.block head .nextLine)
  | ['\x7b'] => some (.block head .here)
  | '\x7b' :: rest =>
      let body := if rest.getLast? = some '\x7d' then rest.dropLast else rest
      (inner (trim body)).map (.single head)
  | body => (inner body).map (.single head)

/-- Reads what follows `if`. -/
def readIf? (inner : List Char → Option Statement) (cs : List Char) : Option Statement :=
  let r := Phrase.read cs
  withBody? inner (.ifHolds (phraseOf r)) r.rest

/-- The condition that at least so many arguments are there, as an `else if` puts it. -/
def argsPhrase (count : Nat) : Phrase :=
  .text ("%argcount >= " ++ String.ofList (natText count))

/-- Reads what follows `else`. -/
def readElse? (inner : List Char → Option Statement) (cs : List Char) : Option Statement :=
  let cs := trimStart cs
  match afterText? "if" cs with
  | some ('_' :: rest) =>
      (readNat? maxCount (rest.takeWhile Char.isDigit)).bind fun count =>
        withBody? inner (.elseIf (argsPhrase count)) (skipThen (rest.dropWhile Char.isDigit))
  | some rest =>
      let r := Phrase.read rest
      withBody? inner (.elseIf (phraseOf r)) r.rest
  | none => withBody? inner .otherwise (skipThen cs)

/-! ## Actions -/

/-- Reads an action behind its name. -/
def readNamedAction? (name : List Char) (cs : List Char) : Option Statement :=
  let on := eqIgnoringCase cs ['o', 'n']
  let off := eqIgnoringCase cs ['o', 'f', 'f']
  if !name.isEmpty && (on || off) then some (.toggleAction (String.ofList name) on)
  else
    (cutAtWord? ['w', 'h', 'e', 'n'] true cs).bind fun (command, pattern) =>
      let command := trim command
      let pattern := trim pattern
      if command.isEmpty || pattern.isEmpty then none
      else some (.action (String.ofList name) (String.ofList command) (String.ofList pattern))

/-- Reads what follows `action`. -/
def readAction? (cs : List Char) : Option Statement :=
  match trim cs with
  | '(' :: rest =>
      let name := rest.takeWhile (· != ')')
      match rest.dropWhile (· != ')') with
      | [] => none
      | _ :: after => readNamedAction? (trim name) (trim after)
  | cs => readNamedAction? [] cs

/-! ## Commands -/

/-- A statement that needs a word and keeps the rest of the line. -/
def withWord? (make : String → List Char → Statement) (cs : List Char) : Option Statement :=
  let (word, rest) := nextWord cs
  if word.isEmpty then none else some (make (String.ofList word) rest)

/-- Reads the rest of a line whose first word, in small letters, is given. -/
def readCommand? (word : String) (cs : List Char) : Option Statement :=
  match word with
  | "action" => readAction? cs
  | "debug" | "debuglevel" => some (.debug (piece cs))
  | "echo" => some (.echo (piece cs))
  | "eval" => withWord? (fun var rest => .eval var (phraseOf (Phrase.read rest))) cs
  | "evalmath" => withWord? (fun var rest => .evalMath var (phraseOf (Phrase.read rest))) cs
  | "exit" => some .exit
  | "gosub" => withWord? (fun label rest => .gosub label (piece rest)) cs
  | "goto" => withWord? (fun label rest => .goto label (piece rest)) cs
  | "match" => withWord? (fun label rest => .matchText label (piece rest)) cs
  | "matchre" => withWord? (fun label rest => .matchRegex label (piece rest)) cs
  | "matchwait" => some (.matchWait (piece cs))
  | "math" =>
      let (var, rest) := nextWord cs
      let (op, rest) := nextWord rest
      if var.isEmpty || op.isEmpty then none
      else some (.math (String.ofList var) (String.ofList op) (piece rest))
  | "move" => some (.move (piece cs))
  | "nextroom" => some .nextRoom
  | "pause" => some (.pause (piece cs))
  | "printbox" => some (.printBox (piece cs))
  | "put" => some (.put (piece cs))
  | "random" =>
      let (lo, rest) := nextWord cs
      some (.random (String.ofList lo) (String.ofList (nextWord rest).1))
  | "return" => some .leave
  | "save" => some (.save (piece cs))
  | "send" => some (.send (piece cs))
  | "setvariable" | "var" => withWord? (fun name rest => .setVar name (piece rest)) cs
  | "shift" => some .shift
  | "unvar" => withWord? (fun name _ => .unsetVar name) cs
  | "wait" => some (.waitPrompt (piece cs))
  | "waiteval" => some (.waitEval (phraseOf (Phrase.read cs)))
  | "waitfor" => some (.waitFor (piece cs))
  | "waitforre" => some (.waitForRegex (piece cs))
  | _ => none

/-! ## Lines -/

/-- Reads a line that starts with a word; `inner` reads the body of a conditional. -/
def readWords? (inner : List Char → Option Statement) (cs : List Char) : Option Statement :=
  let (word, rest) := nextWord cs
  match labelOfWord? word with
  | some name => some (.label (String.ofList name))
  | none =>
      match argCount? word with
      | some count =>
          withBody? inner (.ifArgs count) (skipThen ((cs.drop 3).dropWhile Char.isDigit))
      | none =>
          match afterText? "if" word, afterText? "else" word with
          | some _, _ => readIf? inner (cs.drop 2)
          | none, some _ => readElse? inner (cs.drop 4)
          | none, none => readCommand? (String.ofList (lowerAscii word)) rest

/-- Reads a trimmed line; `inner` reads the body of a conditional. -/
def readLine? (inner : List Char → Option Statement) (cs : List Char) : Option Statement :=
  match cs with
  | [] => none
  | '#' :: _ => some (.comment (String.ofList cs))
  | '\x7b' :: _ => some .leftBrace
  | '\x7d' :: rest =>
      match afterText? "else" (trimStart rest) with
      | some rest => readElse? inner rest
      | none => some .rightBrace
  | cs => readWords? inner cs

/-- Reads a line. -/
def readChars? (cs : List Char) : Option Statement :=
  readLine? (fun body => if _h : body.length < cs.length then readChars? body else none) (trim cs)
termination_by cs.length

/-- The statement on a line, if it holds one. -/
def read? (line : String) : Option Statement :=
  readChars? line.toList

end Statement

end StreamScript
