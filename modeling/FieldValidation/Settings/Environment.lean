import FieldValidation.Value.Entries

/-!
# The environment

The variables of the environment: a finite map from names to texts. A variable that is set stays
as it is; some names count as set although they hold no text, and some cannot be set at all.

## Main definitions

* `reservedNames`: the names that are taken from the start
* `Environment`: the variables
* `Environment.isTaken`, `Environment.trySet`: whether a variable may be set, and setting it
* `Environment.language`: the language of messages
-/

namespace FieldValidation

/-- The names that are taken from the start. -/
def reservedNames : List Text :=
  reservedKey :: ["constructor", "toString", "valueOf", "hasOwnProperty", "isPrototypeOf",
    "propertyIsEnumerable", "toLocaleString", "__defineGetter__", "__defineSetter__",
    "__lookupGetter__", "__lookupSetter__"].map Text.ofString

/-- The variables that are set, by name. -/
abbrev Environment := List (Text × Text)

namespace Environment

/-- The value of a variable. -/
def get? (environment : Environment) (name : Text) : Option Text := environment.lookup name

/-- The environment with a variable set. -/
def set (environment : Environment) (name value : Text) : Environment :=
  (name, value) :: environment.filter (·.1 ≠ name)

/-- The environment without a variable. -/
def unset (environment : Environment) (name : Text) : Environment :=
  environment.filter (·.1 ≠ name)

/-- A text as the environment holds it: it ends at the first null character, and unpaired
surrogates are replaced. -/
def held (t : Text) : Text := Text.wellFormed (t.takeWhile (· ≠ 0))

/-- Whether a variable is set, or its name is taken. -/
def isTaken (environment : Environment) (name : Text) : Bool :=
  reservedNames.contains name || (environment.get? (held name)).isSome

/-- Whether a name can be one of a variable. -/
def canHold (name : Text) : Bool := name ≠ [] && !name.contains (unit '=')

/-- The environment after a variable was to be set: setting a name that cannot be one of a variable
is tried in vain. -/
def trySet (environment : Environment) (name value : Text) : Environment :=
  if canHold (held name) then environment.set (held name) (held value) else environment

/-- The value of a variable, where the empty text counts as none. -/
def nonEmpty? (environment : Environment) (name : Text) : Option Text :=
  (environment.get? name).filter (· ≠ [])

/-- Whether log lines are written for machines. -/
def isProduction (environment : Environment) : Bool :=
  environment.get? "NODE_ENV" = some (Text.ofString "production")

/-- Whether debug lines are written. -/
def isDebugging (environment : Environment) : Bool :=
  environment.get? "VALIDATION_DEBUG" = some (Text.ofString "true")

/-- The language of messages where none is set. -/
def defaultLanguage : Text := "en"

/-- The language of messages. -/
def language (environment : Environment) : Text :=
  (environment.nonEmpty? "VALIDATION_LANGUAGE").getD defaultLanguage

end Environment

end FieldValidation
