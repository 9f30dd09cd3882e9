import FieldValidation.Rule.Builtin
import FieldValidation.Text.Lower

/-!
# The rule registry

A registry knows rules by name, in any letter case: the built-in ones, and those an application
adds or puts in their place. Rules of one registry share their checks.

## Main definitions

* `Rule`: a built-in rule or one of the application
* `Registry.ofRules`: the registry of an application
* `Registry.find?`: the rule of a name
-/

namespace FieldValidation

/-- A rule that an application brings. -/
structure ApplicationRule where
  label : Text
  validate : Checks → FieldId → Value → Value → Except Failure Unit

/-- A rule. -/
inductive Rule where
  | builtin (rule : BuiltinRule)
  | application (rule : ApplicationRule)

/-- Runs a rule on the value of a field. -/
def Rule.validate (rule : Rule) (checks : Checks) (wording : Wording) (field : FieldId)
    (value parameter : Value) : Except Failure Unit :=
  match rule with
  | .builtin rule => rule.validate checks wording field value parameter
  | .application rule => rule.validate checks field value parameter

/-- The rules by their names in lower case, and the checks they share. -/
structure Registry where
  rules : List (Text × Rule)
  checks : Checks

namespace Registry

/-- The rules with one more; a name that is there keeps its place and takes the new rule. -/
def register (rules : List (Text × Rule)) (name : Text) (rule : Rule) : List (Text × Rule) :=
  if rules.any (·.1 = name) then
    rules.map fun (n, r) => if n = name then (n, rule) else (n, r)
  else rules ++ [(name, rule)]

/-- The built-in rules by name. -/
def builtinRules : Entries Rule := BuiltinRule.all.map fun rule => (rule.name, .builtin rule)

/-- The registry of the built-in rules and those of an application, which take precedence. -/
def ofRules (checks : Checks) (extra : Entries Rule) : Registry where
  rules :=
    (extra.foldl (fun rules (name, rule) => Entries.put rules name rule) builtinRules).foldl
      (fun rules (name, rule) => register rules (Text.toLower name) rule) []
  checks := checks

/-- The registry of the built-in rules. -/
def standard (checks : Checks) : Registry := ofRules checks []

/-- The rule of a name, in any letter case. -/
def find? (registry : Registry) (name : Text) : Option Rule :=
  registry.rules.lookup (Text.toLower name)

/-- Whether there is a rule of a name. -/
def has (registry : Registry) (name : Text) : Bool := (registry.find? name).isSome

/-- The names of the rules, in order. -/
def names (registry : Registry) : List Text := registry.rules.map (·.1)

/-- The rule of a name; the empty name is no rule name at all. -/
def get? (registry : Registry) (wording : Wording) (name : Text) :
    Except Failure (Option Rule) := do
  if name = [] then throw (.invalidRule (← wording.say .ruleMustBeNonEmpty []))
  return registry.find? name

end Registry

end FieldValidation
