import FieldValidation.Text.Blank
import FieldValidation.Text.Lower

/-!
# Rule texts

A rule is declared by a text: its name, and after the first colon its parameter. Blanks around
either do not count, the name is taken in lower case, and an empty parameter is none.

## Main definitions

* `RuleSpec`: a rule name and its parameter
* `RuleSpec.parse?`: the rule that a text declares
* `RuleSpec.written`: a text that declares a rule
-/

namespace FieldValidation

/-- A rule as declared: its name, and its parameter if it has one. -/
structure RuleSpec where
  name : Text
  parameter : Option Text
  deriving DecidableEq

namespace RuleSpec

/-- The unit between the name and the parameter. -/
def separator : CodeUnit := unit ':'

/-- The name and the parameter as they stand in a rule text, without the blanks around them. -/
def parts (rule : Text) : Text × Option Text :=
  match Text.splitFirst? separator rule with
  | none => (Text.trim rule, none)
  | some (before, after) =>
    let parameter := Text.trim after
    (Text.trim before, if parameter = [] then none else some parameter)

/-- The rule that a text declares; `none` if the text has no rule name. -/
def parse? (rule : Text) : Option RuleSpec :=
  let (name, parameter) := parts rule
  if name = [] then none else some ⟨Text.toLower name, parameter⟩

/-- A text that declares the rule. -/
def written (spec : RuleSpec) : Text :=
  match spec.parameter with
  | none => spec.name
  | some parameter => spec.name ++ separator :: parameter

end RuleSpec

end FieldValidation
