import StreamScript.Number.Integer

/-!
# Dates and times in text

The clock variables are written by a format: text with percent signs in front of
the letters that stand for a part of the date.  A format with a letter that
stands for nothing has no text at all, so the variable then has no value.
-/

namespace StreamScript

open Number

/-- A date and a time of day. -/
structure Moment where
  year : Nat
  month : Nat
  day : Nat
  hour : Nat
  minute : Nat
  second : Nat
  deriving DecidableEq, Repr

namespace Moment

/-- How a number is filled up to its width. -/
inductive Fill where
  | zero
  | blank
  | none

/-- A number of at least `width` characters. -/
def filled (fill : Fill) (width n : Nat) : List Char :=
  let digits := natText n
  let gap := width - digits.length
  match fill with
  | .zero => List.replicate gap '0' ++ digits
  | .blank => List.replicate gap ' ' ++ digits
  | .none => digits

/-- The number of days from the first of March of the year zero. -/
def dayNumber (m : Moment) : Nat :=
  let year := if m.month ≤ 2 then m.year - 1 else m.year
  let month := if m.month ≤ 2 then m.month + 9 else m.month - 3
  365 * year + year / 4 - year / 100 + year / 400 + (153 * month + 2) / 5 + m.day - 1

/-- The day of the week, from Sunday. -/
def weekday (m : Moment) : Nat :=
  (m.dayNumber + 3) % 7

/-- The day of the year, from one. -/
def yearDay (m : Moment) : Nat :=
  m.dayNumber - dayNumber { m with month := 1, day := 1 } + 1

/-- The names of the days, from Sunday. -/
def dayNames : List String :=
  ["Sunday", "Monday", "Tuesday", "Wednesday", "Thursday", "Friday", "Saturday"]

/-- The names of the months. -/
def monthNames : List String :=
  ["January", "February", "March", "April", "May", "June", "July", "August", "September", "October",
   "November", "December"]

/-- The hour on a dial of twelve. -/
def dialHour (m : Moment) : Nat :=
  if m.hour % 12 = 0 then 12 else m.hour % 12

/-- The half of the day. -/
def half (m : Moment) : String :=
  if m.hour < 12 then "AM" else "PM"

/-- A number whose fill the format may override. -/
def numberWith (override : Option Fill) (usual : Fill) (width n : Nat) : List Char :=
  filled (override.getD usual) width n

/-- What one letter of a format stands for. -/
def part? (m : Moment) (override : Option Fill) (letter : Char) : Option (List Char) :=
  let number := numberWith override
  match letter with
  | 'Y' => some (number .zero 4 m.year)
  | 'C' => some (number .zero 2 (m.year / 100))
  | 'y' => some (number .zero 2 (m.year % 100))
  | 'm' => some (number .zero 2 m.month)
  | 'd' => some (number .zero 2 m.day)
  | 'e' => some (number .blank 2 m.day)
  | 'j' => some (number .zero 3 m.yearDay)
  | 'H' => some (number .zero 2 m.hour)
  | 'k' => some (number .blank 2 m.hour)
  | 'I' => some (number .zero 2 m.dialHour)
  | 'l' => some (number .blank 2 m.dialHour)
  | 'M' => some (number .zero 2 m.minute)
  | 'S' => some (number .zero 2 m.second)
  | 'w' => some (number .zero 1 m.weekday)
  | 'u' => some (number .zero 1 (if m.weekday = 0 then 7 else m.weekday))
  | _ =>
      match override, letter with
      | some _, _ => none
      | none, 'B' => some (monthNames.getD (m.month - 1) "").toList
      | none, 'b' | none, 'h' => some ((monthNames.getD (m.month - 1) "").toList.take 3)
      | none, 'A' => some (dayNames.getD m.weekday "").toList
      | none, 'a' => some ((dayNames.getD m.weekday "").toList.take 3)
      | none, 'p' => some m.half.toList
      | none, 'P' => some (m.half.toList.map Char.toLower)
      | none, 'n' => some ['\n']
      | none, 't' => some ['\t']
      | none, '%' => some ['%']
      | none, _ => none

/-- The letters that stand for a whole format, with that format. -/
def shorthand? : Char → Option String
  | 'D' | 'x' => some "%m/%d/%y"
  | 'F' => some "%Y-%m-%d"
  | 'v' => some "%e-%b-%Y"
  | 'R' => some "%H:%M"
  | 'T' | 'X' => some "%H:%M:%S"
  | 'r' => some "%I:%M:%S %p"
  | 'c' => some "%a %b %e %H:%M:%S %Y"
  | _ => none

/-- Writes a format in which no shorthand occurs. -/
def writePlain? (m : Moment) : List Char → Option (List Char)
  | [] => some []
  | '%' :: '-' :: c :: rest => do return (← m.part? (some .none) c) ++ (← writePlain? m rest)
  | '%' :: '_' :: c :: rest => do return (← m.part? (some .blank) c) ++ (← writePlain? m rest)
  | '%' :: '0' :: c :: rest => do return (← m.part? (some .zero) c) ++ (← writePlain? m rest)
  | '%' :: c :: rest => do return (← m.part? none c) ++ (← writePlain? m rest)
  | ['%'] => none
  | c :: rest => do return c :: (← writePlain? m rest)

/-- Puts formats in the place of their shorthands. -/
def expandShorthands : List Char → List Char
  | [] => []
  | '%' :: c :: rest =>
      match shorthand? c with
      | some fmt => fmt.toList ++ expandShorthands rest
      | none => '%' :: c :: expandShorthands rest
  | c :: rest => c :: expandShorthands rest

/-- The text of a moment by a format. -/
def write? (m : Moment) (fmt : String) : Option String :=
  (m.writePlain? (expandShorthands fmt.toList)).map String.ofList

end Moment

end StreamScript
