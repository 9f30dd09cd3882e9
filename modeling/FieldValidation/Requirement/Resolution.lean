import FieldValidation.Requirement.Constraints

/-!
# Resolving presence

Whether the presence of a field and of its partners is as the constraints ask. Values are never
looked at.

## Main definitions

* `Requirement`: a field with its constraints and what is known of its presence
* `Requirement.outcome`: how presence is resolved
* `Requirement.asked`: the fields whose presence is asked for
-/

namespace FieldValidation

/-- A field with its constraints, whether it is present, and whether a partner is. -/
structure Requirement where
  field : FieldId
  constraints : Constraints
  fieldPresent : Bool
  partnerPresent : Bool
  deriving DecidableEq

namespace Requirement

/-- The requirement of a field in a dataset that has the fields told by `present`. -/
def ofConstraints (field : FieldId) (constraints : Constraints) (present : FieldId → Bool) :
    Requirement where
  field := field
  constraints := constraints
  fieldPresent := present field
  partnerPresent := constraints.partners.any present

/-- The fields whose presence is asked for, in order: the field, and its partners up to the first
that is present. -/
def asked (field : FieldId) (constraints : Constraints) (present : FieldId → Bool) :
    List FieldId :=
  field :: (constraints.partners.takeWhile (!present ·) ++
    (constraints.partners.dropWhile (!present ·)).take 1)

/-- The requirement that the rules of a field declare. -/
def ofRules (wording : Wording) (field : FieldId) (rules : List FieldRule)
    (present : FieldId → Bool) : Except Failure Requirement :=
  match Constraints.ofRules (some field) rules with
  | .error defect => defect.tell wording
  | .ok constraints => .ok (ofConstraints field constraints present)

/-- How the presence of the field is resolved. That it is required counts before that it has
partners. -/
def outcome (r : Requirement) : RequirementOutcome :=
  if r.fieldPresent then
    if r.partnerPresent then .mutuallyExclusiveConflict else .valid
  else if r.constraints.required then .missingRequired
  else if !r.partnerPresent && !r.constraints.partners.isEmpty then .missingWithoutAlternative
  else .valid

/-- The text of an outcome that is not valid. -/
def text? (r : Requirement) (wording : Wording) : Option (Except Failure Text) :=
  let field := r.field.written
  match r.outcome with
  | .valid => none
  | .mutuallyExclusiveConflict =>
    some (wording.say .onlyOneOfFieldsCanBePresent [field, r.constraints.partnerList])
  | .missingRequired => some (wording.say .requiredFieldMissing [field])
  | .missingWithoutAlternative =>
    some (wording.say .eitherFieldOrOtherMustBePresent [field, r.constraints.partnerList])

/-- The refusal of the data where the outcome is not valid. -/
def refusal? (r : Requirement) (wording : Wording) : Except Failure (Option InputError) :=
  match r.text? wording with
  | none => .ok none
  | some text => do
    return some (.ofKind (.requirement r.outcome) (← text) (some r.field))

/-- Fails where the outcome is not valid. -/
def validate (r : Requirement) (wording : Wording) : Except Failure Unit := do
  match ← r.refusal? wording with
  | some error => throw (.input error)
  | none => return ()

/-- Whether an absent field is left at that: a partner stands for it, or it is not required. -/
def skipsValueRules (r : Requirement) : Bool :=
  !r.fieldPresent && (r.partnerPresent || !r.constraints.required)

end Requirement

/-- The rules of a field that look at its value. -/
def valueRules (rules : List FieldRule) : List FieldRule := rules.filter (!·.isRequirement)

end FieldValidation
