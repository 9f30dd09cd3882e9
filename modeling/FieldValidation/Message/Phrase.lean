import FieldValidation.Message.Catalog

/-!
# Phrases

The messages the library itself gives, with their keys and their English texts. The arguments
are, in order, the field where the text names one and then what the rule was declared with.

## Main definitions

* `Phrase`: a message of the library
* `Catalog.bundled`: the catalog of all of them
* `Wording`: a catalog read in one language
-/

namespace FieldValidation

/-- A message of the library. -/
inductive Phrase where
  | ruleMustBeNonEmpty
  | unknownRule
  | requiredWithoutCannotReferenceItself
  | requiredWithoutRequiresFieldName
  | onlyOneOfFieldsCanBePresent
  | requiredFieldMissing
  | eitherFieldOrOtherMustBePresent
  | requiredRuleInvokedDirectly
  | fieldMustBeNumeric
  | numericInvalidParam
  | fieldMustBeAnInteger
  | integerInvalidParam
  | fieldMustBeAString
  | minRequiresNumber
  | fieldMinValue
  | maxRequiresNumber
  | fieldMaxValue
  | minLengthRequiresInteger
  | fieldMinLength
  | maxLengthRequiresInteger
  | fieldMaxLength
  | fieldMustBeAnEmail
  | regexRequiresPattern
  | fieldMustMatchPattern
  | datetimeRequiresFormat
  | fieldMustMatchDatetimeFormat
  | enumRequiresValues
  | fieldMustBeOneOf
  | fieldFailedCustomValidation
  | fieldDoesNotExist
  | rulesetInvalid
  deriving DecidableEq

namespace Phrase

/-- The key of a phrase. -/
def key : Phrase → Text
  | .ruleMustBeNonEmpty => "rule_must_be_non_empty"
  | .unknownRule => "unknown_rule"
  | .requiredWithoutCannotReferenceItself => "requiredwithout_cannot_reference_itself"
  | .requiredWithoutRequiresFieldName => "requiredwithout_requires_field_name"
  | .onlyOneOfFieldsCanBePresent => "only_one_of_fields_can_be_present"
  | .requiredFieldMissing => "required_field_missing"
  | .eitherFieldOrOtherMustBePresent => "either_field_or_other_must_be_present"
  | .requiredRuleInvokedDirectly => "required_rule_invoked_directly"
  | .fieldMustBeNumeric => "field_must_be_numeric"
  | .numericInvalidParam => "numeric_invalid_param"
  | .fieldMustBeAnInteger => "field_must_be_an_integer"
  | .integerInvalidParam => "integer_invalid_param"
  | .fieldMustBeAString => "field_must_be_a_string"
  | .minRequiresNumber => "min_requires_number"
  | .fieldMinValue => "field_min_value"
  | .maxRequiresNumber => "max_requires_number"
  | .fieldMaxValue => "field_max_value"
  | .minLengthRequiresInteger => "minlength_requires_integer"
  | .fieldMinLength => "field_min_length"
  | .maxLengthRequiresInteger => "maxlength_requires_integer"
  | .fieldMaxLength => "field_max_length"
  | .fieldMustBeAnEmail => "field_must_be_an_email"
  | .regexRequiresPattern => "regex_requires_pattern"
  | .fieldMustMatchPattern => "field_must_match_pattern"
  | .datetimeRequiresFormat => "datetime_requires_format"
  | .fieldMustMatchDatetimeFormat => "field_must_match_datetime_format"
  | .enumRequiresValues => "enum_requires_values"
  | .fieldMustBeOneOf => "field_must_be_one_of"
  | .fieldFailedCustomValidation => "field_failed_custom_validation"
  | .fieldDoesNotExist => "field_does_not_exist"
  | .rulesetInvalid => "ruleset_invalid"

/-- The English text of a phrase. -/
def english : Phrase → Text
  | .ruleMustBeNonEmpty => "Rule must be a non-empty string."
  | .unknownRule => "Unknown rule '%s'."
  | .requiredWithoutCannotReferenceItself =>
    "Rule 'requiredWithout' cannot reference the field itself."
  | .requiredWithoutRequiresFieldName => "Rule 'requiredWithout' must be used with a field name."
  | .onlyOneOfFieldsCanBePresent => "Only one of '%s' or %s can be present."
  | .requiredFieldMissing => "Required field '%s' is missing."
  | .eitherFieldOrOtherMustBePresent => "Either '%s' or %s must be present."
  | .requiredRuleInvokedDirectly =>
    Text.ofString "Rule 'required' for field '%s' is resolved by presence checks and cannot be " ++
      "dispatched as a value rule."
  | .fieldMustBeNumeric => "Field '%s' must be numeric."
  | .numericInvalidParam => "Rule 'numeric' must be used with either 'strict' or no parameter."
  | .fieldMustBeAnInteger => "Field '%s' must be an integer."
  | .integerInvalidParam => "Rule 'integer' must be used with either 'strict' or no parameter."
  | .fieldMustBeAString => "Field '%s' must be a string."
  | .minRequiresNumber => "Rule 'min' must be used with a number."
  | .fieldMinValue => "Field '%s' must have a minimum value of %s."
  | .maxRequiresNumber => "Rule 'max' must be used with a number."
  | .fieldMaxValue => "Field '%s' must have a maximum value of %s."
  | .minLengthRequiresInteger => "Rule 'minLength' must be used with an integer."
  | .fieldMinLength => "Field '%s' must have a minimum length of %s characters."
  | .maxLengthRequiresInteger => "Rule 'maxLength' must be used with an integer."
  | .fieldMaxLength => "Field '%s' must have a maximum length of %s characters."
  | .fieldMustBeAnEmail => "Field '%s' must be a valid email address."
  | .regexRequiresPattern => "Rule 'regex' must be used with a valid pattern."
  | .fieldMustMatchPattern => "Field '%s' must match the required pattern: %s"
  | .datetimeRequiresFormat => "Rule 'datetime' must be used with a format string."
  | .fieldMustMatchDatetimeFormat => "Field '%s' must match the datetime format: %s"
  | .enumRequiresValues => "Rule 'enum' must be used with a list of allowed values."
  | .fieldMustBeOneOf => "Field '%s' must be one of: %s."
  | .fieldFailedCustomValidation => "Field '%s' failed custom validation."
  | .fieldDoesNotExist => "Field '%s' does not exist."
  | .rulesetInvalid => "Invalid rule set: %s"

/-- Every phrase. -/
def all : List Phrase :=
  [.ruleMustBeNonEmpty, .unknownRule, .requiredWithoutCannotReferenceItself,
    .requiredWithoutRequiresFieldName, .onlyOneOfFieldsCanBePresent, .requiredFieldMissing,
    .eitherFieldOrOtherMustBePresent, .requiredRuleInvokedDirectly, .fieldMustBeNumeric,
    .numericInvalidParam, .fieldMustBeAnInteger, .integerInvalidParam, .fieldMustBeAString,
    .minRequiresNumber, .fieldMinValue, .maxRequiresNumber, .fieldMaxValue,
    .minLengthRequiresInteger, .fieldMinLength, .maxLengthRequiresInteger, .fieldMaxLength,
    .fieldMustBeAnEmail, .regexRequiresPattern, .fieldMustMatchPattern, .datetimeRequiresFormat,
    .fieldMustMatchDatetimeFormat, .enumRequiresValues, .fieldMustBeOneOf,
    .fieldFailedCustomValidation, .fieldDoesNotExist, .rulesetInvalid]

/-- The language of the texts that come with the library. -/
def bundledLanguage : Text := "en"

/-- The catalog entry of a phrase. -/
def catalogUnit (p : Phrase) : Text × CatalogUnit := (p.key, .texts [(bundledLanguage, p.english)])

end Phrase

/-- The catalog that comes with the library: all phrases in English, and one more key for the
phrase that a field must be numeric. -/
def Catalog.bundled : Catalog :=
  (Text.ofString "field_must_be_a_number", .reference Phrase.fieldMustBeNumeric.key) ::
    Phrase.all.map Phrase.catalogUnit

/-- The catalog to take texts from, and the language to take them in. -/
structure Wording where
  catalog : Catalog
  language : Text

namespace Wording

/-- The texts that come with the library, in the given language. -/
def bundled (language : Text) : Wording := ⟨Catalog.bundled, language⟩

/-- The text of a phrase with its arguments filled in. -/
def say (wording : Wording) (phrase : Phrase) (args : List Text) : Except Failure Text :=
  (wording.catalog.get wording.language phrase.key args).mapError .catalog

end Wording

end FieldValidation
