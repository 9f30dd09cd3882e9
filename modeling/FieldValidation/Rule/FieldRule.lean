import FieldValidation.Rule.Registry

/-!
# Rules of a field

A field is declared with named rules, each with its parameter and perhaps a text of its own, and
with predicates of the application. A text of its own replaces the text of a violation and of
nothing else; a predicate refuses a value only by answering `false`.

## Main definitions

* `NamedRule`, `Predicate`, `FieldRule`: the rules of a field
* `FieldRule.validate`: running one on a value
-/

namespace FieldValidation

/-- A rule by name, with its parameter and the text that replaces that of a violation. -/
structure NamedRule where
  name : Text
  parameter : Value
  message : Option Text

/-- A predicate of the application, with the label it is known by there. Any answer but `false`
lets the value pass. -/
structure Predicate where
  label : Text
  answer : Value → Except Failure Value

/-- A rule of a field. -/
inductive FieldRule where
  | named (rule : NamedRule)
  | predicate (p : Predicate)

namespace FieldRule

/-- The name of a rule; predicates have the empty one. -/
def name : FieldRule → Text
  | .named rule => rule.name
  | .predicate _ => []

/-- The parameter of a rule. -/
def parameter : FieldRule → Value
  | .named rule => rule.parameter
  | .predicate _ => .null

/-- The text that replaces that of a violation. -/
def customMessage : FieldRule → Option Text
  | .named rule => rule.message
  | .predicate _ => none

end FieldRule

/-- The failure with the text of a violation replaced. -/
def Failure.reword (field : FieldId) (message : Option Text) : Failure → Failure
  | .input error =>
    match message with
    | some text =>
      if error.kind.isViolation then .input (error.reworded .rule text field) else .input error
    | none => .input error
  | failure => failure

/-- Runs a named rule on the value of a field. -/
def NamedRule.validate (rule : NamedRule) (registry : Registry) (wording : Wording)
    (field : FieldId) (value : Value) : Except Failure Unit := do
  match ← registry.get? wording rule.name with
  | none =>
    let text ← wording.say .unknownRule [rule.name]
    throw (.unknownRule rule.name text (some field))
  | some found =>
    (found.validate registry.checks wording field value rule.parameter).mapError
      (Failure.reword field rule.message)

/-- Runs a predicate on the value of a field. -/
def Predicate.validate (p : Predicate) (wording : Wording) (field : FieldId) (value : Value) :
    Except Failure Unit := do
  match ← p.answer value with
  | .bool false =>
    let text ← wording.say .fieldFailedCustomValidation [field.written]
    throw (.input (.violation text field))
  | _ => return ()

namespace FieldRule

/-- Runs a rule on the value of a field. -/
def validate (rule : FieldRule) (registry : Registry) (wording : Wording) (field : FieldId)
    (value : Value) : Except Failure Unit :=
  match rule with
  | .named rule => rule.validate registry wording field value
  | .predicate p => p.validate wording field value

end FieldRule

end FieldValidation
