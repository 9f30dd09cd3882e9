import FieldValidation.Number.Decimal
import FieldValidation.Text.Basic

/-!
# The text of a number

A number is written with the fewest digits that read back as it. The notation is positional
from `10 ^ -6` up to below `10 ^ 21` and scientific beyond, with a signed exponent; zero has no
sign.

## Main definitions

* `Number.written`: the text of a number
-/

namespace FieldValidation

namespace Number

/-- Numbers below ten to this power are written positionally. -/
def positionalBelow : Int := 21

/-- Numbers from ten to this power on are written positionally. -/
def positionalFrom : Int := -6

/-- The digits of a positive number and the position of the decimal point, counted from the
first digit: `0.d₁d₂… * 10 ^ point`, without zeros at the end of the digits. -/
def digitsAndPoint (x : Decimal) : Text × Int :=
  let digits := Text.ofNat x.digits
  let kept := (digits.reverse.dropWhile (· == unit '0')).reverse
  (kept, digits.length + x.exponent)

/-- A number written as `digits`, the decimal point standing at `point`. -/
def layout (digits : Text) (point : Int) : Text :=
  let k : Int := digits.length
  if k ≤ point ∧ point ≤ positionalBelow then
    -- a whole number, filled up with zeros
    digits ++ List.replicate (point - k).toNat (unit '0')
  else if 0 < point ∧ point ≤ positionalBelow then
    digits.take point.toNat ++ unit '.' :: digits.drop point.toNat
  else if positionalFrom < point ∧ point ≤ 0 then
    -- below one, with the zeros after the point
    unit '0' :: unit '.' :: (List.replicate (-point).toNat (unit '0') ++ digits)
  else
    let power := point - 1
    let mantissa := match digits with
      | [] => []
      | [d] => [d]
      | d :: ds => d :: unit '.' :: ds
    mantissa ++ unit 'e' :: (if power < 0 then unit '-' else unit '+') :: Text.ofNat power.natAbs

/-- The text of a number. -/
def written : Number → Text
  | .nan => "NaN"
  | .infinite false => "Infinity"
  | .infinite true => "-Infinity"
  | .finite x =>
    if x.significand = 0 then "0"
    else
      let (digits, point) := digitsAndPoint x.shortest
      (if x.negative then [unit '-'] else []) ++ layout digits point

end Number

end FieldValidation
