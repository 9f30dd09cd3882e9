import FieldValidation.Value.Basic

/-!
# Failures

What can go wrong. An input error tells that the data is not what its rules ask for; every other
failure lies with the declarations, the message catalog, the files or the application.

## Main definitions

* `RequirementOutcome`: how the presence of a field was resolved
* `InputError`: why the data was refused
* `CatalogFault`: why there is no text for a message
* `Failure`: any of these, and the rest
-/

namespace FieldValidation

/-- The resolution of the presence of a field. -/
inductive RequirementOutcome where
  | valid
  | missingRequired
  | mutuallyExclusiveConflict
  | missingWithoutAlternative
  deriving DecidableEq

/-- The label of an outcome. -/
def RequirementOutcome.label : RequirementOutcome → Text
  | .valid => "valid"
  | .missingRequired => "missing_required"
  | .mutuallyExclusiveConflict => "mutually_exclusive_conflict"
  | .missingWithoutAlternative => "missing_without_alternative"

/-- What refused the data. -/
inductive InputErrorKind where
  /-- The application, outside any rule. -/
  | plain
  /-- A value rule. -/
  | rule
  /-- The rule `required`, run as if it were a value rule. -/
  | requiredRule
  /-- The resolution of presence. -/
  | requirement (outcome : RequirementOutcome)
  deriving DecidableEq

namespace InputErrorKind

/-- Whether the refusal is a violation of a value rule. -/
def isViolation : InputErrorKind → Bool
  | .rule => true
  | .requiredRule => true
  | _ => false

/-- The code of errors of a kind, unless they are given another. -/
def code : InputErrorKind → Text
  | .plain => "VALIDATION_ERROR"
  | .rule => "RULE_VIOLATION"
  | .requiredRule => "REQUIRED_RULE_VIOLATION"
  | .requirement _ => "REQUIREMENT_FAILED"

end InputErrorKind

/-- A refusal of the data: what refused it, the text for the user, the field unless that is
unknown, and the code that tells refusals apart. -/
structure Refusal where
  kind : InputErrorKind
  message : Text
  field : Option FieldId
  code : Text
  deriving DecidableEq

/-- An error in the data. Its causes are the refusals behind it, the nearest first: each had its
text replaced by the one before. -/
structure InputError extends Refusal where
  causes : List Refusal
  deriving DecidableEq

namespace InputError

/-- A refusal of a field with the code of its kind. -/
def ofKind (kind : InputErrorKind) (message : Text) (field : Option FieldId) : InputError :=
  { kind, message, field, code := kind.code, causes := [] }

/-- A violation of a value rule. -/
def violation (message : Text) (field : FieldId) : InputError := ofKind .rule message (some field)

/-- The refusal of a kind with another text in place of that of `error`. -/
def reworded (error : InputError) (kind : InputErrorKind) (message : Text) (field : FieldId) :
    InputError :=
  { ofKind kind message (some field) with causes := error.toRefusal :: error.causes }

end InputError

/-- Why a document could not be used. -/
inductive DocumentDefect where
  | missingFile
  | unreadableFile
  | malformedJson
  | malformedYaml
  deriving DecidableEq

/-- Why the catalog has no text to give. -/
inductive CatalogFault where
  | aliasCycle (key : Text)
  | unknownKey (key : Text)
  | unknownLanguage (language key : Text)
  | tooFewArguments (key : Text)
  | unreadable (path : Text) (defect : DocumentDefect)
  | rootNotObject
  | emptyKey
  | malformedEntry (key : Text)
  | emptyLanguage (key : Text)
  | malformedText (key language : Text)
  /-- Any other fault, told in words. -/
  | stated (message : Text)
  deriving DecidableEq

namespace CatalogFault

/-- The fault in words. -/
def message : CatalogFault → Text
  | .aliasCycle key => Text.ofString "Alias cycle detected with message '" ++ key ++ "'."
  | .unknownKey key => Text.ofString "Message '" ++ key ++ "' not found."
  | .unknownLanguage language key =>
    Text.ofString "Language '" ++ language ++ "' not found for message '" ++ key ++ "'."
  | .tooFewArguments key => Text.ofString "Too few arguments for message '" ++ key ++ "'."
  | .unreadable path _ => Text.ofString "Message catalog '" ++ path ++ "' could not be read."
  | .rootNotObject => "Message catalog must contain an object at the root."
  | .emptyKey => "Message key cannot be empty."
  | .malformedEntry key =>
    Text.ofString "Message '" ++ key ++
      "' must be an object of language-text pairs or an alias string."
  | .emptyLanguage key =>
    Text.ofString "Language code cannot be empty in message '" ++ key ++ "'."
  | .malformedText key language =>
    Text.ofString "Text for '" ++ key ++ "' in '" ++ language ++ "' must be a string."
  | .stated message => message

/-- The defect of the file that could not be read, if it is that. -/
def defect? : CatalogFault → Option DocumentDefect
  | .unreadable _ defect => some defect
  | _ => none

end CatalogFault

/-- A failure. -/
inductive Failure where
  /-- The data is refused. -/
  | input (error : InputError)
  /-- The declarations have a defect. -/
  | configuration (message code : Text) (defect : Option DocumentDefect)
  /-- A rule text without a rule name. -/
  | invalidRule (message : Text)
  /-- A rule name that is not registered. -/
  | unknownRule (name message : Text) (field : Option FieldId)
  /-- A value was asked of a field that is not there. -/
  | fieldNotFound (field : FieldId) (message : Text)
  /-- The message catalog has no text to give. -/
  | catalog (fault : CatalogFault)
  /-- The application raised an error of its own. -/
  | raised (message : Text)
  /-- The application gave up with a bare text. -/
  | thrown (text : Text)
  /-- A value was to be written that has no text form. -/
  | noTextForm
  /-- A file that is not there. -/
  | missingFile (path : Text)
  /-- A file that cannot be read, for a reason that the system gives. -/
  | unreadableFile (reason : Text)
  /-- A setting that is required and not set. -/
  | missingSetting (key : Text)
  deriving DecidableEq

namespace Failure

/-- The code of a defect in the declarations, unless it is given another. -/
def configurationCode : Text := "CONFIGURATION_ERROR"

/-- A defect in the declarations. -/
def misconfigured (message : Text) : Failure := .configuration message configurationCode none

/-- The text of a failure. -/
def message : Failure → Text
  | .input error => error.message
  | .configuration message _ _ => message
  | .invalidRule message => message
  | .unknownRule _ message _ => message
  | .fieldNotFound _ message => message
  | .catalog fault => fault.message
  | .raised message => message
  | .thrown text => text
  | .noTextForm => "Cannot convert object to primitive value"
  | .missingFile path => Text.ofString "ENOENT: no such file or directory, open '" ++ path ++ "'"
  | .unreadableFile reason => reason
  | .missingSetting key =>
    key ++ (Text.ofString " not found in configuration. " ++
      "Set it in the environment or in ~/.config/field-rules/env.json.")

/-- The code of a failure of the validation itself; `none` for the failures of others. -/
def code? : Failure → Option Text
  | .input error => some error.code
  | .configuration _ code _ => some code
  | .invalidRule _ => some "INVALID_RULE"
  | .unknownRule _ _ _ => some "UNKNOWN_RULE"
  | .fieldNotFound _ _ => some "FIELD_NOT_FOUND"
  | .catalog _ => some "MESSAGE_CATALOG_ERROR"
  | _ => none

/-- The field that a failure names. -/
def field? : Failure → Option FieldId
  | .input error => error.field
  | .unknownRule _ _ field => field
  | .fieldNotFound field _ => some field
  | _ => none

end Failure

end FieldValidation
