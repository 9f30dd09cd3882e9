import FieldValidation.Calendar.Format

/-!
# Matching a date against a format

A text is first cut into the texts of the directives of the format, taking as many digits as
possible where a directive leaves the choice, and fewer only where the rest does not fit
otherwise. Of this one cut every text must be in the range of its directive, directives of the
same part must agree, and a day must lie in its month.

## Main definitions

* `Calendar.cut?`: the texts of the directives of a format
* `Calendar.readings?`: the parts they give
* `Calendar.accepts`: whether a text is a date in a format
-/

namespace FieldValidation

namespace Calendar

namespace Directive

/-- The first `n` units as digits, and what follows; nothing if they are not all digits. -/
def fixedDigits (n : Nat) (t : Text) : List (Text × Text) :=
  if (t.take n).length = n ∧ (t.take n).all CodeUnit.isDigit then [(t.take n, t.drop n)] else []

/-- One or two digits without leading zero, two being tried first. -/
def bareDigits : Text → List (Text × Text)
  | [] => []
  | [u] => if u.isDigit && u != unit '0' then [([u], [])] else []
  | u :: v :: rest =>
    if u.isDigit && u != unit '0' then
      (if v.isDigit then [([u, v], rest)] else []) ++ [([u], v :: rest)]
    else []

/-- The first of some words that the text begins with, and what follows it. -/
def oneOf (words : List Text) (t : Text) : List (Text × Text) :=
  words.filterMap fun word => (Text.dropPrefix? word t).map (word, ·)

/-- The two halves of the day in capitals, the morning first. -/
def upperHalves : List Text := ["AM", "PM"].map Text.ofString

/-- The two halves of the day in small letters, the morning first. -/
def lowerHalves : List Text := ["am", "pm"].map Text.ofString

/-- The texts that may stand for a directive at the front of a text, each with what follows it,
in the order in which they are tried. -/
def candidates : Directive → Text → List (Text × Text)
  | .year, t => fixedDigits 4 t
  | .shortYear, t | .month, t | .day, t | .hour, t | .halfDayHour, t | .minute, t | .second, t =>
    fixedDigits 2 t
  | .bareMonth, t | .bareDay, t | .bareHalfDayHour, t => bareDigits t
  -- midnight is a zero by itself, of which no second digit is taken
  | .bareHour, t => oneOf [[unit '0']] t ++ bareDigits t
  | .shortMonthName, t => oneOf shortMonthNames t
  | .monthName, t => oneOf monthNames t
  | .upperMeridiem, t => oneOf upperHalves t
  | .lowerMeridiem, t => oneOf lowerHalves t

/-- A number if it lies between two bounds. -/
def within (low high n : Nat) : Option Nat := if low ≤ n ∧ n ≤ high then some n else none

/-- The position of a text in a list. -/
def position? (words : List Text) (t : Text) : Option Nat := words.findIdx? (· == t)

/-- Two digits stand for the years from 1970 to 2069. -/
def fullYear (n : Nat) : Nat := if 70 ≤ n then 1900 + n else 2000 + n

/-- The number that the text of a directive gives to its part; `none` if it is out of range. -/
def read? : Directive → Text → Option Nat
  | .year, t => within 0 9999 (Text.decimalValue t)
  | .shortYear, t => some (fullYear (Text.decimalValue t))
  | .month, t | .bareMonth, t => within 1 12 (Text.decimalValue t)
  | .shortMonthName, t => (position? shortMonthNames t).map (· + 1)
  | .monthName, t => (position? monthNames t).map (· + 1)
  | .day, t | .bareDay, t => within 1 31 (Text.decimalValue t)
  | .hour, t | .bareHour, t => within 0 23 (Text.decimalValue t)
  | .halfDayHour, t | .bareHalfDayHour, t => within 1 12 (Text.decimalValue t)
  | .minute, t | .second, t => within 0 59 (Text.decimalValue t)
  | .upperMeridiem, t => position? upperHalves t
  | .lowerMeridiem, t => position? lowerHalves t

end Directive

/-- The directives of a format with the texts that stand for them in `t`, by the first cut that
uses up the whole of `t`. -/
def cut? : List Piece → (t : Text) → Option (List (Directive × Text))
  | [], t => if t.isEmpty then some [] else none
  | .literal u :: pieces, t =>
    match t with
    | [] => none
    | v :: rest => if u = v then cut? pieces rest else none
  | .directive d :: pieces, t =>
    (d.candidates t).findSome? fun (taken, rest) => (cut? pieces rest).map ((d, taken) :: ·)

/-- The numbers given to parts. -/
abbrev Readings := List (Part × Nat)

/-- The parts with one more number; `none` if the part has a different one. -/
def Readings.agree? (readings : Readings) (part : Part) (n : Nat) : Option Readings :=
  match readings.lookup part with
  | some m => if m = n then some readings else none
  | none => some ((part, n) :: readings)

/-- The parts that the texts of directives give; `none` if one of them is out of range or two do
not agree. -/
def readings? (readings : Readings) : List (Directive × Text) → Option Readings
  | [] => some readings
  | (d, t) :: rest => do
    let n ← d.read? t
    let readings ← readings.agree? d.part n
    readings? readings rest

/-- Whether the day lies in its month. A day or a month alone is not questioned, and a month of no
year is taken to be of `thisYear`. -/
def isRealDay (thisYear : Nat) (readings : Readings) : Bool :=
  match readings.lookup .day, readings.lookup .month with
  | some day, some month =>
    day ≤ daysInMonth ((readings.lookup .year).getD thisYear) month
  | _, _ => true

/-- Whether a text is a date in a format. -/
def accepts (thisYear : Nat) (format text : Text) : Bool :=
  match (Piece.parse? format).bind (cut? · text) with
  | none => false
  | some texts =>
    match readings? [] texts with
    | none => false
    | some readings => isRealDay thisYear readings

end Calendar

end FieldValidation
