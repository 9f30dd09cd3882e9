import FieldValidation.Calendar.Format

/-!
# Days by number

The days of the Gregorian calendar, numbered on from the first day of 1970. A month may lie
outside its year and a day outside its month; they are counted on from there.

## Main definitions

* `Calendar.dayNumber`: the number of a day
* `Calendar.dateOfDay`: the year, month and day of a day
* `Calendar.weekday`: the day of the week, from Sunday on
-/

namespace FieldValidation

namespace Calendar

/-- The number of the first day of a year. -/
def firstDayOfYear (year : Int) : Int :=
  365 * (year - 1970) + (year - 1969) / 4 - (year - 1901) / 100 + (year - 1601) / 400

/-- The number of days in a year before one of its months, the months counted from zero. -/
def daysBeforeMonth (year month : Nat) : Nat :=
  (List.range month).foldl (fun days m => days + daysInMonth year (m + 1)) 0

/-- The number of a day: the months are counted from zero, the days from one. -/
def dayNumber (year month day : Int) : Int :=
  let year := year + month / 12
  firstDayOfYear year + daysBeforeMonth year.toNat (month % 12).toNat + day - 1

/-- A year no later than the one a day from the year zero on lies in, and at most one earlier. -/
def yearBelow (day : Int) : Nat := ((day * 400) / 146097 + 1970 - 1).toNat

/-- The year that a day lies in. -/
def yearOfDay (day : Int) : Nat :=
  let year := yearBelow day
  if firstDayOfYear (year + 2) ≤ day then year + 2
  else if firstDayOfYear (year + 1) ≤ day then year + 1
  else year

/-- The month, counted from zero, and the day of the month of the day that comes `n` days after
the first of `month`, in the months that are left. -/
def monthAndDay (year month n : Nat) : (left : Nat) → Nat × Nat
  | 0 => (month, n + 1)
  | left + 1 =>
    let length := daysInMonth year (month + 1)
    if n < length then (month, n + 1) else monthAndDay year (month + 1) (n - length) left

/-- The year, the month counted from zero, and the day of the month of a day. -/
def dateOfDay (day : Int) : Nat × Nat × Nat :=
  let year := yearOfDay day
  let (month, dayOfMonth) := monthAndDay year 0 (day - firstDayOfYear year).toNat 11
  (year, month, dayOfMonth)

/-- The day of the week; zero is Sunday. -/
def weekday (day : Int) : Nat := ((day + 4) % 7).toNat

/-- The names of the days of the week, cut to three letters. -/
def shortWeekdayNames : List Text :=
  ["Sun", "Mon", "Tue", "Wed", "Thu", "Fri", "Sat"].map Text.ofString

end Calendar

end FieldValidation
