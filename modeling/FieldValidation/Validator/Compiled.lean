import FieldValidation.Requirement.Resolution
import FieldValidation.Rule.Spec
import FieldValidation.Text.Lower

/-!
# Declared rules

The rules of every field, as an application declares them and as they are run. Rule texts are
parsed and their messages are looked up once and for all; whether a rule name is registered is
asked only when the rule is run.

An application may give a text of its own for the failure of a rule on a field. The text stands
under the key `field.rule`: the last dot separates the two, so that a field may have dots in it,
and the letter case of the rule does not count.

## Main definitions

* `findMessage`: the text for a field and a rule
* `Definition`: a rule as declared
* `compile`: the rules of every field
-/

namespace FieldValidation

/-- The unit between the field and the rule in the key of a message. -/
def messageSeparator : CodeUnit := unit '.'

/-- Whether a key is for a field and a rule. -/
def isMessageKey (field rule key : Text) : Bool :=
  match Text.splitLast? messageSeparator key with
  | some (before, after) => before = field && Text.toLower after = Text.toLower rule
  | none => false

/-- The text for a field and a rule: that of the first key for them. -/
def findMessage (messages : Entries Text) (field rule : Text) : Option Text :=
  (List.find? (fun (key, _) => isMessageKey field rule key) messages).map (·.2)

/-- A rule as declared: a rule text or a predicate. -/
inductive Definition where
  | text (rule : Text)
  | predicate (p : Predicate)

/-- The rules of the fields as declared, in the order of the fields. -/
abbrev Declarations := Entries (List Definition)

/-- The rules of the fields as they are run. -/
abbrev CompiledRules := List (Text × List FieldRule)

/-- The rule that a definition of a field declares. -/
def Definition.compile (wording : Wording) (messages : Entries Text) (field : Text) :
    Definition → Except Failure FieldRule
  | .predicate p => return .predicate p
  | .text rule =>
    match RuleSpec.parse? rule with
    | some ⟨name, parameter⟩ =>
      return .named
        ⟨name, (parameter.map Value.text).getD .null, findMessage messages field name⟩
    | none => do throw (.invalidRule (← wording.say .ruleMustBeNonEmpty []))

/-- The rules of every field. -/
def compile (wording : Wording) (messages : Entries Text) (declarations : Declarations) :
    Except Failure CompiledRules :=
  declarations.mapM fun (field, definitions) => do
    return (field, ← definitions.mapM (Definition.compile wording messages field))

end FieldValidation
