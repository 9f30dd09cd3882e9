import FieldValidation.Message.Phrase
import FieldValidation.Rule.Checks

/-!
# The built-in rules

What each built-in rule says of a value under a parameter. A rule looks at the value and at the
parameter only, so its verdict knows neither the field nor the language; both come in when the
verdict is told.

## Main definitions

* `BuiltinRule`: the rules
* `BuiltinRule.verdict`: what a rule says of a value
* `Verdict.tell`: the failure that a verdict stands for
-/

namespace FieldValidation

/-- What a rule says of a value. -/
inductive Verdict where
  | passes
  /-- The value is refused; the texts are put into the phrase after the field. -/
  | violated (phrase : Phrase) (args : List Text)
  /-- The rule that resolves presence was run as if it were a value rule. -/
  | notAValueRule
  /-- The rule cannot work with its parameter. -/
  | unusableParameter (phrase : Phrase)
  deriving DecidableEq

/-- The failure that a verdict on a field stands for, in words. -/
def Verdict.tell (wording : Wording) (field : FieldId) : Verdict → Except Failure Unit
  | .passes => .ok ()
  | .violated phrase args => do
    let text ← wording.say phrase (field.written :: args)
    throw (.input (.violation text field))
  | .notAValueRule => do
    let text ← wording.say .requiredRuleInvokedDirectly [field.written]
    throw (.input (.ofKind .requiredRule text (some field)))
  | .unusableParameter phrase => do
    let text ← wording.say phrase []
    throw (.misconfigured text)

/-- A built-in rule. -/
inductive BuiltinRule where
  | required
  | string
  | numeric
  | integer
  | email
  | datetime
  | min
  | max
  | minLength
  | maxLength
  | regex
  | enum
  deriving DecidableEq

namespace BuiltinRule

/-- Every built-in rule. -/
def all : List BuiltinRule :=
  [.required, .string, .numeric, .integer, .email, .datetime, .min, .max, .minLength, .maxLength,
    .regex, .enum]

/-- The name under which a rule is registered. -/
def name : BuiltinRule → Text
  | .required => "required"
  | .string => "string"
  | .numeric => "numeric"
  | .integer => "integer"
  | .email => "email"
  | .datetime => "datetime"
  | .min => "min"
  | .max => "max"
  | .minLength => "minlength"
  | .maxLength => "maxlength"
  | .regex => "regex"
  | .enum => "enum"

/-- The parameter that asks for numbers proper. -/
def strict : Text := "strict"

/-- The verdict of a rule that has a strict and a lenient reading: which of the two is meant
depends on the parameter. -/
def strictOrLenient (strictly leniently : Bool) (refusal misuse : Phrase) (parameter : Value) :
    Verdict :=
  let check (valid : Bool) : Verdict := if valid then .passes else .violated refusal []
  match parameter with
  | .null | .undefined => check leniently
  | .text t => if t = strict then check strictly else .unusableParameter misuse
  | _ => .unusableParameter misuse

/-- The verdict of a bound on a numeric value; `accepted` are the orders of value and bound that
keep it. -/
def bound (checks : Checks) (accepted : Ordering → Bool) (refusal misuse : Phrase)
    (value parameter : Value) : Verdict :=
  if !checks.isNumeric value then .violated .fieldMustBeNumeric []
  else if !checks.isNumeric parameter then .unusableParameter misuse
  else if (checks.compareNumeric value parameter).any accepted then .passes
  else .violated refusal [parameter.written]

/-- The number of items that a record claims to have: its length as a number, without a fraction,
and none where that is no positive number. -/
def claimedLength (entries : Entries Value) : Number :=
  match ((Entries.find? entries "length").getD .undefined).toNumber with
  | .finite x => .ofNat x.truncated.toNat
  | _ => .zero

/-- The number of characters of a text. Of other values it is the number of their items, or the
length that a record claims. -/
def characterLength : Value → Number
  | .text t => .ofNat (Text.codePoints t).length
  | .list items => .ofNat items.length
  | .map entries => .ofNat entries.length
  | .record entries => claimedLength entries
  | _ => .zero

/-- The verdict of a bound on the length of a text. -/
def lengthBound (checks : Checks) (accepted : Ordering → Bool) (refusal misuse : Phrase)
    (value parameter : Value) : Verdict :=
  if !checks.isString value then .violated .fieldMustBeAString []
  else if !checks.isIntegerLike parameter then .unusableParameter misuse
  else if ((characterLength value).compare? parameter.toNumber).any accepted then .passes
  else .violated refusal [parameter.written]

/-- The verdict of a rule that holds a text against a text. -/
def textAgainst (checks : Checks) (fits : Text → Text → Bool) (refusal misuse : Phrase)
    (value parameter : Value) : Verdict :=
  if !checks.isString value then .violated .fieldMustBeAString []
  else if !checks.isString parameter then .unusableParameter misuse
  else if fits value.written parameter.written then .passes
  else .violated refusal [parameter.written]

/-- Whether a value is a text, a number or a truth value. -/
def isScalar : Value → Bool
  | .text _ | .number _ | .bool _ => true
  | _ => false

/-- The values that the parameter of an enumeration offers: the pieces between the commas of a
text, or the items of a list. -/
def offeredValues (checks : Checks) (parameter : Value) : List Value :=
  if checks.isString parameter then
    (Text.splitOn (unit ',') parameter.written).map .text
  else if checks.isArray parameter then
    match parameter with
    | .list items => items.filterMap id
    | _ => []
  else []

/-- The texts that an enumeration allows: those of its scalars, without blanks around them and
without the empty ones. -/
def allowedValues (checks : Checks) (parameter : Value) : List Text :=
  (((offeredValues checks parameter).filter isScalar).map fun v => Text.trim v.written).filter
    (· ≠ [])

/-- The verdict of an enumeration. -/
def enumeration (checks : Checks) (value parameter : Value) : Verdict :=
  let allowed := allowedValues checks parameter
  if allowed = [] then .unusableParameter .enumRequiresValues
  else if isScalar value && allowed.contains value.written then .passes
  else .violated .fieldMustBeOneOf [Text.join ", " allowed]

/-- The verdict of a test of the value alone. -/
def plainTest (valid : Bool) (refusal : Phrase) : Verdict :=
  if valid then .passes else .violated refusal []

/-- What a rule says of a value under a parameter. -/
def verdict (checks : Checks) (rule : BuiltinRule) (value parameter : Value) : Verdict :=
  match rule with
  | .required => .notAValueRule
  | .string => plainTest (checks.isString value) .fieldMustBeAString
  | .numeric =>
    strictOrLenient (checks.isNumber value) (checks.isNumeric value) .fieldMustBeNumeric
      .numericInvalidParam parameter
  | .integer =>
    strictOrLenient (checks.isInteger value) (checks.isIntegerLike value) .fieldMustBeAnInteger
      .integerInvalidParam parameter
  | .email => plainTest (checks.isEmailAddress value) .fieldMustBeAnEmail
  | .datetime =>
    textAgainst checks checks.matchDateTime .fieldMustMatchDatetimeFormat .datetimeRequiresFormat
      value parameter
  | .min => bound checks Ordering.isGE .fieldMinValue .minRequiresNumber value parameter
  | .max => bound checks Ordering.isLE .fieldMaxValue .maxRequiresNumber value parameter
  | .minLength =>
    lengthBound checks Ordering.isGE .fieldMinLength .minLengthRequiresInteger value parameter
  | .maxLength =>
    lengthBound checks Ordering.isLE .fieldMaxLength .maxLengthRequiresInteger value parameter
  | .regex =>
    textAgainst checks checks.matchRegex .fieldMustMatchPattern .regexRequiresPattern value
      parameter
  | .enum => enumeration checks value parameter

/-- Runs a rule on the value of a field. -/
def validate (rule : BuiltinRule) (checks : Checks) (wording : Wording) (field : FieldId)
    (value parameter : Value) : Except Failure Unit :=
  (rule.verdict checks value parameter).tell wording field

end BuiltinRule

end FieldValidation
