import FieldValidation.Rule.Numeral
import FieldValidation.Calendar.Matching
import FieldValidation.Regex.Delimited
import FieldValidation.Value.Written

/-!
# Checks

The predicates on values that the rules are made of. They are held together so that an
application can put others in place of some of them. What passes for a number or a text is shown in
messages, so it has a text form.

## Main definitions

* `Checks`: the predicates
* `Checks.standard`: their usual meaning
* `Value.compareNumeric`: the order of two numeric values
-/

namespace FieldValidation

/-- The predicates on values that rules are made of. -/
structure Checks where
  isNumeric : Value → Bool
  isNumber : Value → Bool
  isString : Value → Bool
  isInteger : Value → Bool
  isIntegerLike : Value → Bool
  isEmailAddress : Value → Bool
  isArray : Value → Bool
  compareNumeric : Value → Value → Option Ordering
  matchDateTime : Text → Text → Bool
  matchRegex : Text → Text → Bool
  hasText_of_isNumeric : ∀ v, isNumeric v = true → v.HasText
  hasText_of_isString : ∀ v, isString v = true → v.HasText
  hasText_of_isIntegerLike : ∀ v, isIntegerLike v = true → v.HasText

namespace Value

/-- Whether a value is a finite number, an integer of any size or a numeral. -/
def isNumeric : Value → Bool
  | .number x => x.isFinite
  | .bigint _ => true
  | .text t => Text.isNumeral t
  | _ => false

/-- Whether a value is a finite number. -/
def isNumber : Value → Bool
  | .number x => x.isFinite
  | _ => false

/-- Whether a value is a number without fraction. -/
def isInteger : Value → Bool
  | .number x => x.isInteger
  | _ => false

/-- Whether a value is a safe integer, or spells one. -/
def isIntegerLike : Value → Bool
  | .number x => x.isSafeInteger
  | .text t => Text.isCanonicalInteger t && (Number.ofText t).isSafeInteger
  | _ => false

/-- Whether a value is the text of an email address. -/
def isEmailAddress : Value → Bool
  | .text t => Text.isEmailAddress t
  | _ => false

/-- Whether a value is a list. -/
def isArray : Value → Bool
  | .list _ => true
  | _ => false

/-- The exact integer that a value stands for, if it stands for one. -/
def exactInteger? : Value → Option Int
  | .bigint i => some i
  | .number x => x.toInt?
  | .text t => Text.bigInteger? t
  | _ => none

end Value

/-- The order of two numbers by the sign of their difference; there is none between two
infinities of one sign, nor with not-a-number. -/
def Number.orderByDifference? : Number → Number → Option Ordering
  | .infinite a, .infinite b => if a = b then none else some (if a then .lt else .gt)
  | x, y => x.compare? y

/-- The order of two values as numbers. Where both stand for integers they are compared exactly,
otherwise as doubles. -/
def Value.compareNumeric (left right : Value) : Option Ordering :=
  match left.exactInteger?, right.exactInteger? with
  | some i, some j => some (compare i j)
  | _, _ => left.toNumber.orderByDifference? right.toNumber

/-- The predicates in their usual meaning. -/
def Checks.standard (thisYear : Nat) : Checks where
  isNumeric := Value.isNumeric
  isNumber := Value.isNumber
  isString := Value.isText
  isInteger := Value.isInteger
  isIntegerLike := Value.isIntegerLike
  isEmailAddress := Value.isEmailAddress
  isArray := Value.isArray
  compareNumeric := Value.compareNumeric
  matchDateTime := fun value format => Calendar.accepts thisYear format value
  matchRegex := fun value pattern => Regex.matchesPattern pattern value
  hasText_of_isNumeric v h := by cases v <;> first | rfl | cases h
  hasText_of_isString v h := by cases v <;> first | rfl | cases h
  hasText_of_isIntegerLike v h := by cases v <;> first | rfl | cases h

end FieldValidation
