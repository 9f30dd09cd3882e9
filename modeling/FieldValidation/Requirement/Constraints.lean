import FieldValidation.Rule.FieldRule

/-!
# Requirement constraints

What the rules of a field ask of its presence: `required` asks for the field itself, and
`requiredWithout` names a partner, of which and the field exactly one is to be present.

## Main definitions

* `Constraints`: what is asked of the presence of a field
* `Constraints.ofRules`: the constraints that the rules of a field declare
-/

namespace FieldValidation

/-- What is asked of the presence of a field. -/
structure Constraints where
  required : Bool
  partners : List FieldId
  deriving DecidableEq

/-- The rule that asks for the field. -/
def requiredName : Text := "required"

/-- The rule that names a partner of the field. -/
def requiredWithoutName : Text := "requiredwithout"

/-- Why a partner cannot be one. -/
inductive PartnerDefect where
  /-- The parameter is no field. -/
  | noField
  /-- The partner is the field itself. -/
  | itself
  deriving DecidableEq

namespace PartnerDefect

/-- The phrase that tells of a defect. -/
def phrase : PartnerDefect → Phrase
  | .noField => .requiredWithoutRequiresFieldName
  | .itself => .requiredWithoutCannotReferenceItself

/-- The defect as a failure, in words. -/
def tell {α : Type} (wording : Wording) (defect : PartnerDefect) : Except Failure α := do
  throw (.misconfigured (← wording.say defect.phrase []))

end PartnerDefect

namespace FieldRule

/-- Whether a rule asks for the field. -/
def isRequired (rule : FieldRule) : Bool := Text.toLower rule.name = requiredName

/-- Whether a rule names a partner. -/
def namesPartner (rule : FieldRule) : Bool := Text.toLower rule.name = requiredWithoutName

/-- Whether a rule is about presence. -/
def isRequirement (rule : FieldRule) : Bool := rule.isRequired || rule.namesPartner

/-- The partner that a rule gives to a field; of an unknown field nothing is known. -/
def partner (field : Option FieldId) (rule : FieldRule) : Except PartnerDefect FieldId :=
  match FieldId.ofValue? rule.parameter with
  | none => .error .noField
  | some other =>
    if field.any (·.written = other.written) then .error .itself else .ok other

end FieldRule

namespace Constraints

/-- The constraints that the rules of a field declare, or the first defect among them. -/
def ofRules (field : Option FieldId) (rules : List FieldRule) :
    Except PartnerDefect Constraints := do
  let partners ← (rules.filter FieldRule.namesPartner).mapM (FieldRule.partner field)
  return ⟨rules.any FieldRule.isRequired, partners⟩

/-- The partners in words: one by itself, several as a choice. -/
def partnerList (constraints : Constraints) : Text :=
  match constraints.partners with
  | [] => []
  | [partner] => unit '\'' :: (partner.written ++ [unit '\''])
  | partners =>
    Text.ofString "one of '" ++ Text.join "', '" (partners.map FieldId.written) ++ [unit '\'']

end Constraints

end FieldValidation
