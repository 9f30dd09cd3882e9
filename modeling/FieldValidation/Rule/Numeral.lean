import FieldValidation.Number.Reading

/-!
# Numerals and addresses

The shapes of text that the rules on numbers and on email addresses ask for. Blanks around a
numeral do not count. Each shape is recognised by a scan of its own, which reads no value.

## Main definitions

* `Text.isNumeral`: decimal and scientific notation
* `Text.isCanonicalInteger`: integers without leading zeros
* `Text.bigInteger?`: integers of any size, with their value
* `Text.isEmailAddress`: a local part, an `@` and a domain with a dot in it
-/

namespace FieldValidation

namespace Text

/-- What follows an optional sign. -/
def dropSign : Text → Text
  | [] => []
  | u :: rest => if u = unit '+' ∨ u = unit '-' then rest else u :: rest

/-- Whether a text is empty or an exponent: `e` or `E`, an optional sign and digits. -/
def isExponent : Text → Bool
  | [] => true
  | u :: rest =>
    let digits := dropSign rest
    (u == unit 'e' || u == unit 'E') && !digits.isEmpty && digits.all CodeUnit.isDigit

/-- Whether a text is a numeral without a sign: digits, a point with digits on at least one side
of it, and perhaps an exponent. -/
def isUnsignedNumeral (t : Text) : Bool :=
  let whole := t.takeWhile CodeUnit.isDigit
  match t.dropWhile CodeUnit.isDigit with
  | [] => !whole.isEmpty
  | u :: rest =>
    if u = unit '.' then
      let fraction := rest.takeWhile CodeUnit.isDigit
      !(whole.isEmpty && fraction.isEmpty) && isExponent (rest.dropWhile CodeUnit.isDigit)
    else !whole.isEmpty && isExponent (u :: rest)

/-- Whether a text is a number in decimal or scientific notation. -/
def isNumeral (t : Text) : Bool := isUnsignedNumeral (dropSign (trim t))

/-- Whether a text is zero or a run of digits that does not start with zero. -/
def isCanonicalDigits : Text → Bool
  | [] => false
  | [u] => u.isDigit
  | u :: rest => u.isDigit && u != unit '0' && rest.all CodeUnit.isDigit

/-- Whether a text is an integer without leading zeros. -/
def isCanonicalInteger (t : Text) : Bool := isCanonicalDigits (dropSign (trim t))

/-- The integer that a text spells, whatever its size. -/
def bigInteger? (t : Text) : Option Int :=
  let (negative, digits) := takeSign (trim t)
  if digits.isEmpty || !digits.all CodeUnit.isDigit then none
  else
    let n : Int := decimalValue digits
    some (if negative then -n else n)

/-- A unit that may stand in an email address beside the `@`. -/
def isAddressUnit (u : CodeUnit) : Bool := !u.isBlank && u != unit '@'

/-- Whether a text is an email address: neither blanks nor a second `@`, something before the
`@`, and after it a dot that is neither first nor last. -/
def isEmailAddress (t : Text) : Bool :=
  match splitFirst? (unit '@') t with
  | none => false
  | some (mailbox, domain) =>
    !mailbox.isEmpty && mailbox.all isAddressUnit && domain.all isAddressUnit &&
      (domain.drop 1).dropLast.contains (unit '.')

end Text

end FieldValidation
