import FieldValidation.Log.Line
import FieldValidation.Validator.Basic

/-!
# What a validation logs

A validation that comes to an end leaves one debug entry in the log; one that fails on the way
leaves none.

## Main definitions

* `Validator.entriesOfValidate`, `Validator.entriesOfValidateAll`: the entries of the two ways to
  validate
-/

namespace FieldValidation

namespace Validator

/-- A count as a value. -/
private def count (n : Nat) : Value := .number (.ofNat n)

/-- The log entries of a validation that stops at the first failure. -/
def entriesOfValidate (v : Validator) : Except Failure (Option FieldFailure) → List LogEntry
  | .ok none => [.withData .debug "Validation passed" [("fields", count v.fields.length)]]
  | .ok (some failure) =>
    [.withData .debug "Validation failed"
      [("field", .text failure.field), ("rule", .text failure.rule),
        ("code", .text failure.error.code)]]
  | .error _ => []

/-- The log entries of a validation of all fields. -/
def entriesOfValidateAll (v : Validator) : Except Failure (List FieldFailure) → List LogEntry
  | .ok failures =>
    [.withData .debug "Validation report"
      [("fields", count v.fields.length), ("errors", count failures.length)]]
  | .error _ => []

end Validator

end FieldValidation
