import FieldValidation.Requirement.Resolution

/-!
# Asking for presence

A requirement is made by asking a dataset for one field after the other, and the dataset can see
what it is asked for. What is wrong with the rules is found before anything is asked. Then the field
is asked for, and after it its partners, until one of them is present.

## Main definitions

* `Requirement.inquire`: makes the requirement of rules, asking a dataset
* `Requirement.inquiry`: what comes of it, with the fields that were asked for
-/

namespace FieldValidation

namespace Requirement

/-- Makes the requirement that constraints on a field come to, asking for one field at a time. -/
def inquireOf {m : Type → Type} [Monad m] (ask : FieldId → m Bool) (field : FieldId)
    (constraints : Constraints) : m Requirement := do
  let fieldPresent ← ask field
  let partnerPresent ← constraints.partners.anyM ask
  return { field, constraints, fieldPresent, partnerPresent }

/-- Makes the requirement that the rules of a field declare, asking for one field at a time. -/
def inquire {m : Type → Type} [Monad m] (ask : FieldId → m Bool) (wording : Wording)
    (field : FieldId) (rules : List FieldRule) : ExceptT Failure m Requirement :=
  match Constraints.ofRules (some field) rules with
  | .error defect => .mk (pure (defect.tell wording))
  | .ok constraints => .lift (inquireOf ask field constraints)

/-- Answers whether a field is present, and notes that it was asked for. -/
def answerNoting (present : FieldId → Bool) (field : FieldId) : StateM (List FieldId) Bool := do
  modify (· ++ [field])
  return present field

/-- What comes of making the requirement that the rules of a field declare, and the fields that a
dataset is asked for on the way, in order. -/
def inquiry (wording : Wording) (field : FieldId) (rules : List FieldRule)
    (present : FieldId → Bool) : Except Failure Requirement × List FieldId :=
  ((inquire (answerNoting present) wording field rules).run.run []).run

end Requirement

end FieldValidation
