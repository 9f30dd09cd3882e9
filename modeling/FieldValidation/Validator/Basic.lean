import FieldValidation.Validator.Compiled
import FieldValidation.Validator.Traced
import FieldValidation.Value.Dataset

/-!
# The validator

A validator holds a dataset against the rules of its fields, field by field. The presence of a
field is resolved first, and ends the field if it is not valid; an absent field that need not be
there is left at that. Then the value rules are run in order up to the first violation, unless
the value is null and the field is nullable.

## Main definitions

* `Validator`: the rules of the fields, and the texts for their failures
* `Validator.checkField`: the verdict on one field
* `Validator.validate`: stopping at the first field that fails
* `Validator.validateAll`: collecting the failures of all fields
-/

namespace FieldValidation

/-- A validator. The messages are those that requirement failures are reworded with; the texts
for value rules are part of the rules. -/
structure Validator where
  fields : CompiledRules
  messages : Entries Text
  registry : Registry

/-- A field that failed, and the rule it failed by. -/
structure FieldFailure where
  field : Text
  rule : Text
  error : InputError
  deriving DecidableEq

/-- A failed field in a report. -/
structure FieldError where
  field : Text
  rule : Text
  code : Text
  message : Text
  deriving DecidableEq

/-- The failed fields of a dataset. -/
structure Report where
  errors : List FieldError
  deriving DecidableEq

/-- Whether no field failed. -/
def Report.valid (report : Report) : Bool := report.errors.isEmpty

/-- The failure as an entry of a report. -/
def FieldFailure.entry (failure : FieldFailure) : FieldError :=
  ⟨failure.field, failure.rule, failure.error.code, failure.error.message⟩

/-- The rule that lets null pass. -/
def nullableName : Text := "nullable"

/-- What the rule of a failure is called where it has no name. -/
def predicateLabel : Text := "custom"

namespace FieldRule

/-- Whether a rule lets null pass. -/
def isNullable (rule : FieldRule) : Bool := rule.name = nullableName

/-- What a rule is called in a report. -/
def label (rule : FieldRule) : Text := if rule.name = [] then predicateLabel else rule.name

end FieldRule

namespace Validator

/-- The value of a field that is known to be present. -/
def fetch (wording : Wording) (dataset : Value) (field : FieldId) : Except Failure Value :=
  match dataset.lookup field with
  | some value => .ok value
  | none => do throw (.fieldNotFound field (← wording.say .fieldDoesNotExist [field.written]))

/-- Runs the value rules of a field up to the first violation. -/
def runRules (registry : Registry) (wording : Wording) (field : Text) (value : Value) :
    List FieldRule → Traced (Option FieldFailure)
  | [] => .ofExcept (.ok none)
  | rule :: rest =>
    if rule.isNullable then runRules registry wording field value rest
    else
      let run : Ran := ⟨field, rule, value⟩
      match rule.validate registry wording field value with
      | .ok () =>
        let others := runRules registry wording field value rest
        ⟨others.result, run :: others.ran⟩
      | .error (.input error) => ⟨.ok (some ⟨field, rule.label, error⟩), [run]⟩
      | .error failure => ⟨.error failure, [run]⟩

/-- The rule that a requirement failure is reported under. -/
def requirementRule : RequirementOutcome → Text
  | .missingRequired => requiredName
  | _ => requiredWithoutName

/-- The failure of a field whose presence is not as required, with the text of the application
where there is one. -/
def requirementFailure (messages : Entries Text) (field : Text) (outcome : RequirementOutcome)
    (error : InputError) : FieldFailure :=
  let rule := requirementRule outcome
  match findMessage messages field rule with
  | some text => ⟨field, rule, error.reworded (.requirement outcome) text field⟩
  | none => ⟨field, rule, error⟩

/-- The verdict on one field: the failure it ends with, if any. -/
def checkField (v : Validator) (wording : Wording) (dataset : Value) (field : Text)
    (rules : List FieldRule) : Traced (Option FieldFailure) := do
  -- whether the field is to be there is settled before its value is looked at
  let requirement ← .ofExcept (Requirement.ofRules wording field rules dataset.hasField)
  match ← .ofExcept (requirement.refusal? wording) with
  | some error => return some (requirementFailure v.messages field requirement.outcome error)
  | none =>
    if requirement.skipsValueRules then return none
    let value ← .ofExcept (fetch wording dataset field)
    let rules := valueRules rules
    -- null passes wherever in the order the rule that lets it pass stands
    match value, rules.any FieldRule.isNullable with
    | .null, true => return none
    | _, _ => runRules v.registry wording field value rules

/-- The first failure among some fields. -/
def firstFailureOf (v : Validator) (wording : Wording) (dataset : Value) :
    CompiledRules → Traced (Option FieldFailure)
  | [] => return none
  | (field, rules) :: rest => do
    match ← v.checkField wording dataset field rules with
    | some failure => return some failure
    | none => firstFailureOf v wording dataset rest

/-- The failures of some fields, each by the first rule that fails. -/
def failuresOf (v : Validator) (wording : Wording) (dataset : Value) :
    CompiledRules → Traced (List FieldFailure)
  | [] => return []
  | (field, rules) :: rest => do
    let failure ← v.checkField wording dataset field rules
    let others ← failuresOf v wording dataset rest
    return failure.toList ++ others

/-- The first failure of a dataset. -/
def firstFailure (v : Validator) (wording : Wording) (dataset : Value) :
    Traced (Option FieldFailure) :=
  v.firstFailureOf wording dataset v.fields

/-- The failures of a dataset. -/
def failures (v : Validator) (wording : Wording) (dataset : Value) : Traced (List FieldFailure) :=
  v.failuresOf wording dataset v.fields

/-- Validates a dataset, stopping at the first field that fails. -/
def validate (v : Validator) (wording : Wording) (dataset : Value) : Traced Unit := do
  match ← v.firstFailure wording dataset with
  | some failure => .ofExcept (.error (.input failure.error))
  | none => return ()

/-- Validates every field of a dataset. -/
def validateAll (v : Validator) (wording : Wording) (dataset : Value) : Traced Report := do
  let failures ← v.failures wording dataset
  return ⟨failures.map FieldFailure.entry⟩

/-- The validator that declarations make. -/
def ofDeclarations (wording : Wording) (registry : Registry) (messages : Entries Text)
    (declarations : Declarations) : Except Failure Validator := do
  return ⟨← compile wording messages declarations, messages, registry⟩

/-- The validator after the application set one of its messages. The rules keep the texts they were
compiled with. -/
def setMessage (v : Validator) (key text : Text) : Validator :=
  { v with messages := Entries.put v.messages key text }

/-- The validator after the application removed one of its messages. -/
def deleteMessage (v : Validator) (key : Text) : Validator :=
  { v with messages := Entries.erase v.messages key }

end Validator

end FieldValidation
