import FieldValidation.Calendar.DayNumber
import FieldValidation.Number.Reading

/-!
# Moments

A date, or a date with a time, written as `2001-12-14` or `2001-12-14 21:59:43.10 -5`. The parts
are read as they stand, and those too large for their place are counted on into the next one.

## Main definitions

* `Yaml.Moment`: a moment
* `Yaml.Moment.read?`: the moment that a text spells
* `Yaml.Moment.written`: a moment as a key
-/

namespace FieldValidation

namespace Yaml

/-- A moment, in milliseconds from the first day of 1970 on. -/
structure Moment where
  milliseconds : Int
  deriving DecidableEq

namespace Moment

/-- The value of the digits that a text begins with, at least `low` and at most `high` of them,
and what follows. -/
def digits? (low high : Nat) (t : Text) : Option (Nat × Text) :=
  let digits := (t.take high).takeWhile CodeUnit.isDigit
  if low ≤ digits.length then some (Text.decimalValue digits, t.drop digits.length) else none

/-- What follows a character at the front of a text. -/
def after? (char : Char) : Text → Option Text
  | [] => none
  | u :: rest => if u = unit char then some rest else none

/-- The text without the spaces and tabs it begins with. -/
def skipBlanks (t : Text) : Text := t.dropWhile fun u => u == unit ' ' || u == unit '\t'

/-- The year that four digits name: the first hundred are those of the twentieth century. -/
def fullYear (n : Nat) : Nat := if n < 100 then 1900 + n else n

/-- The first day of a date and what follows the date. The year has four digits, the month and the
day at least `low` and at most two each. -/
def day? (low : Nat) (t : Text) : Option (Int × Text) := do
  let (year, t) ← digits? 4 4 t
  let (month, t) ← digits? low 2 (← after? '-' t)
  let (day, t) ← digits? low 2 (← after? '-' t)
  pure (Calendar.dayNumber (fullYear year) ((month : Int) - 1) day, t)

/-- The milliseconds of a time of day and what follows it: hours of one or two digits, minutes and
seconds of two, and perhaps a fraction, of which three digits count. -/
def time? (t : Text) : Option (Nat × Text) := do
  let (hour, t) ← digits? 1 2 t
  let (minute, t) ← digits? 2 2 (← after? ':' t)
  let (second, t) ← digits? 2 2 (← after? ':' t)
  let seconds := (hour * 60 + minute) * 60 + second
  match after? '.' t with
  | none => pure (seconds * 1000, t)
  | some t =>
    let fraction := t.takeWhile CodeUnit.isDigit ++ List.replicate 3 (unit '0')
    let milliseconds := Text.decimalValue (fraction.take 3)
    pure (seconds * 1000 + milliseconds, t.dropWhile CodeUnit.isDigit)

/-- The distance from the prime meridian's time, in minutes, that ends a text: `Z`, or a sign and
hours, perhaps with minutes. -/
def offset? (t : Text) : Option Int := do
  if t = Text.ofString "Z" then
    return 0
  let sign : Int ← match t with
    | u :: _ => if u = unit '+' then some 1 else if u = unit '-' then some (-1) else none
    | [] => none
  let (hours, t) ← digits? 1 2 t.tail
  match t with
  | [] => return sign * (hours * 60 : Int)
  | _ =>
    let (minutes, t) ← digits? 2 2 (← after? ':' t)
    if t.isEmpty then return sign * (hours * 60 + minutes : Int) else none

/-- The milliseconds of a day. -/
def dayLength : Int := 24 * 60 * 60 * 1000

/-- What stands between a date and its time: a letter `T`, or blanks. -/
def timeStart? : Text → Option Text
  | [] => none
  | u :: rest =>
    if u = unit 'T' ∨ u = unit 't' then some rest
    else if u.toNat = 32 ∨ u.toNat = 9 then some (skipBlanks rest)
    else none

/-- The moment that a text spells: a date, in which month and day have two digits, or a date with
a time and perhaps an offset. -/
def read? (t : Text) : Option Moment :=
  match day? 2 t with
  | some (day, []) => some ⟨day * dayLength⟩
  | _ => do
    let (day, t) ← day? 1 t
    let (time, t) ← time? (← timeStart? t)
    match t with
    | [] => return ⟨day * dayLength + time⟩
    | t => return ⟨day * dayLength + time - (← offset? (skipBlanks t)) * 60 * 1000⟩

/-- A natural number with as many leading zeros as give it a width. -/
def padded (width n : Nat) : Text :=
  let digits := Text.ofNat n
  List.replicate (width - digits.length) (unit '0') ++ digits

/-- A moment as text: the day of the week, the date, the time to the second, and the zone. -/
def written (m : Moment) : Text :=
  let seconds := m.milliseconds / 1000
  let day := seconds / 86400
  let second := (seconds % 86400).toNat
  let (year, month, dayOfMonth) := Calendar.dateOfDay day
  let word (names : List Text) (n : Nat) : Text := names.getD n []
  let time := Text.join [unit ':']
    [padded 2 (second / 3600), padded 2 (second / 60 % 60), padded 2 (second % 60)]
  Text.join [unit ' ']
    [word Calendar.shortWeekdayNames (Calendar.weekday day),
      word Calendar.shortMonthNames month, padded 2 dayOfMonth, padded 4 year, time,
      "GMT+0000 (Coordinated Universal Time)"]

end Moment

end Yaml

end FieldValidation
