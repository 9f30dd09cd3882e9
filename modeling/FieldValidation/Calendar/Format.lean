import FieldValidation.Text.Basic

/-!
# Date formats

A date format is made of letters that stand for parts of a date or of a time of day, and of
literal units. Every unit that is not a letter is literal, and so is the unit after a backslash.
Dates are those of the Gregorian calendar.

## Main definitions

* `Calendar.isLeapYear`, `Calendar.daysInMonth`: the lengths of the months
* `Calendar.monthNames`: the months by name
* `Part`: the parts of a date and of a time of day
* `Directive`: what a letter of a format stands for
* `Piece.parse?`: the pieces of a format
-/

namespace FieldValidation

namespace Calendar

/-- Every fourth year is a leap year, but of the full centuries only every fourth. -/
def isLeapYear (year : Nat) : Bool :=
  (year % 4 == 0 && year % 100 != 0) || year % 400 == 0

/-- The number of days of a month. -/
def daysInMonth (year month : Nat) : Nat :=
  if month = 2 then if isLeapYear year then 29 else 28
  else if month ∈ [4, 6, 9, 11] then 30
  else 31

/-- The names of the months, in order. -/
def monthNames : List Text :=
  ["January", "February", "March", "April", "May", "June", "July", "August", "September",
    "October", "November", "December"].map Text.ofString

/-- The names of the months, cut to three letters. -/
def shortMonthNames : List Text := monthNames.map (·.take 3)

/-- A part of a date or of a time of day. -/
inductive Part where
  | year
  | month
  | day
  | hour
  | minute
  | second
  | meridiem
  deriving DecidableEq

/-- What a letter of a format stands for. -/
inductive Directive where
  /-- `Y`: four digits of the year. -/
  | year
  /-- `y`: two digits of the year. -/
  | shortYear
  /-- `m`: two digits of the month. -/
  | month
  /-- `n`: the month without leading zero. -/
  | bareMonth
  /-- `M`: the month by its short name. -/
  | shortMonthName
  /-- `F`: the month by its name. -/
  | monthName
  /-- `d`: two digits of the day. -/
  | day
  /-- `j`: the day without leading zero. -/
  | bareDay
  /-- `H`: two digits of the hour. -/
  | hour
  /-- `G`: the hour without leading zero. -/
  | bareHour
  /-- `h`: two digits of the hour, from 1 to 12. -/
  | halfDayHour
  /-- `g`: the hour from 1 to 12 without leading zero. -/
  | bareHalfDayHour
  /-- `i`: two digits of the minute. -/
  | minute
  /-- `s`: two digits of the second. -/
  | second
  /-- `A`: `AM` or `PM`. -/
  | upperMeridiem
  /-- `a`: `am` or `pm`. -/
  | lowerMeridiem
  deriving DecidableEq

namespace Directive

/-- The directive that a letter stands for. -/
def ofLetter? (u : CodeUnit) : Option Directive :=
  if u = unit 'Y' then some .year
  else if u = unit 'y' then some .shortYear
  else if u = unit 'm' then some .month
  else if u = unit 'n' then some .bareMonth
  else if u = unit 'M' then some .shortMonthName
  else if u = unit 'F' then some .monthName
  else if u = unit 'd' then some .day
  else if u = unit 'j' then some .bareDay
  else if u = unit 'H' then some .hour
  else if u = unit 'G' then some .bareHour
  else if u = unit 'h' then some .halfDayHour
  else if u = unit 'g' then some .bareHalfDayHour
  else if u = unit 'i' then some .minute
  else if u = unit 's' then some .second
  else if u = unit 'A' then some .upperMeridiem
  else if u = unit 'a' then some .lowerMeridiem
  else none

/-- The part that a directive gives. -/
def part : Directive → Part
  | .year | .shortYear => .year
  | .month | .bareMonth | .shortMonthName | .monthName => .month
  | .day | .bareDay => .day
  | .hour | .bareHour | .halfDayHour | .bareHalfDayHour => .hour
  | .minute => .minute
  | .second => .second
  | .upperMeridiem | .lowerMeridiem => .meridiem

end Directive

/-- A piece of a format. -/
inductive Piece where
  | literal (u : CodeUnit)
  | directive (d : Directive)
  deriving DecidableEq

namespace Piece

/-- What a unit of a format stands for by itself; a letter that stands for nothing is no piece. -/
def ofUnit? (u : CodeUnit) : Option Piece :=
  match Directive.ofLetter? u with
  | some d => some (.directive d)
  | none => if u.isLetter then none else some (.literal u)

/-- The pieces of the rest of a format, where `escaped` tells that a backslash stands before it. A
backslash with nothing after it is literal. -/
def parseFrom? (escaped : Bool) : Text → Option (List Piece)
  | [] => some (if escaped then [.literal (unit '\\')] else [])
  | u :: rest =>
    if escaped then (parseFrom? false rest).map (.literal u :: ·)
    else if u = unit '\\' then parseFrom? true rest
    else
      match ofUnit? u with
      | some piece => (parseFrom? false rest).map (piece :: ·)
      | none => none

/-- The pieces of a format; `none` if a letter in it stands for nothing. -/
def parse? (format : Text) : Option (List Piece) := parseFrom? false format

end Piece

end Calendar

end FieldValidation
