import FieldValidation.Number.Decimal
import FieldValidation.Text.Blank

/-!
# Reading a number

The number that a text spells: blanks around it do not count, and nothing between them is zero.
Decimal numerals may lack the digits on one side of the point and may carry an exponent;
`Infinity` may carry a sign; numerals in base 16, 8 and 2 start with `0x`, `0o` and `0b` and have
no sign. Any other text is not a number.

## Main definitions

* `Decimal.ofText?`: the decimal numeral that a text is
* `Number.ofText`: the number that a text spells
-/

namespace FieldValidation

/-- A sign taken off the front of a text, and whether it is a minus. -/
def Text.takeSign : Text → Bool × Text
  | [] => (false, [])
  | u :: rest =>
    if u = unit '-' then (true, rest)
    else if u = unit '+' then (false, rest)
    else (false, u :: rest)

/-- A text cut at its first `e` or `E`: the part before, and the part after if there is one. -/
def Text.cutAtExponent : Text → Text × Option Text
  | [] => ([], none)
  | u :: rest =>
    if u = unit 'e' ∨ u = unit 'E' then ([], some rest)
    else
      let (before, after) := cutAtExponent rest
      (u :: before, after)

namespace Decimal

/-- The integer that an exponent part spells: an optional sign and at least one digit. -/
def exponent? (t : Text) : Option Int :=
  let (negative, digits) := Text.takeSign t
  if digits.isEmpty || !digits.all CodeUnit.isDigit then none
  else
    let n : Int := Text.decimalValue digits
    some (if negative then -n else n)

/-- The digits of an unsigned numeral and the number of them after the point: digits on at least
one side of an optional point. -/
def mantissa? (t : Text) : Option (Nat × Nat) :=
  let (whole, fraction) := (Text.splitFirst? (unit '.') t).getD (t, [])
  if (whole ++ fraction).isEmpty || !(whole ++ fraction).all CodeUnit.isDigit then none
  else some (Text.decimalValue (whole ++ fraction), fraction.length)

/-- The decimal numeral that a text is: an optional sign, a mantissa and an optional exponent. -/
def ofText? (t : Text) : Option Decimal :=
  let (negative, unsigned) := Text.takeSign t
  let (mantissa, power) := Text.cutAtExponent unsigned
  match mantissa? mantissa, power.map exponent? with
  | some (digits, places), none => some ⟨negative, digits, -places⟩
  | some (digits, places), some (some e) => some ⟨negative, digits, e - places⟩
  | _, _ => none

end Decimal

namespace Number

/-- The number that digits in the given base spell; not a number if there are none, or if a unit
is no digit of the base. -/
def ofDigits (base : Nat) (digits : Text) : Number :=
  let values := digits.map CodeUnit.hexValue?
  if values.isEmpty || !values.all (fun v => v.any (· < base)) then .nan
  else ofNat (Text.digitsValue base (fun u => (CodeUnit.hexValue? u).getD 0) digits)

/-- The base that the letter after a leading zero stands for. -/
def baseOfLetter? (u : CodeUnit) : Option Nat :=
  if u = unit 'x' ∨ u = unit 'X' then some 16
  else if u = unit 'o' ∨ u = unit 'O' then some 8
  else if u = unit 'b' ∨ u = unit 'B' then some 2
  else none

/-- The number spelt by a text without blanks around it, unless it is in a base other than
ten. -/
def ofDecimalText (t : Text) : Number :=
  let (negative, unsigned) := Text.takeSign t
  if unsigned = Text.ofString "Infinity" then .infinite negative
  else
    match Decimal.ofText? t with
    | some decimal => decimal.nearest
    | none => .nan

/-- The number spelt by a text without blanks around it. -/
def ofTrimmed : Text → Number
  | [] => zero
  | zeroUnit :: letter :: digits =>
    match if zeroUnit = unit '0' then baseOfLetter? letter else none with
    | some base => ofDigits base digits
    | none => ofDecimalText (zeroUnit :: letter :: digits)
  | t => ofDecimalText t

/-- The number that a text spells. -/
def ofText (t : Text) : Number := ofTrimmed (Text.trim t)

end Number

end FieldValidation
