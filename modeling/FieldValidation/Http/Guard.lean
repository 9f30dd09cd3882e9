import FieldValidation.Http.Error
import FieldValidation.Json.Reader
import FieldValidation.Validator.Events

/-!
# Guarding requests

A guard takes a dataset out of a request and validates it. The request passes with the dataset, or
it is refused with an error, or the validation fails for a reason that is not the sender's; only
such a failure is logged as an error and left to the application.

What a query and a form hold, and what the text of a body is, is not for a guard to say. A request
comes with these, or with the failure to make them out.

## Main definitions

* `Request`: a request as it reaches a guard
* `RequestPart`, `Extracted`, `extract`: what is taken out of a request
* `Guard`, `GuardOutcome`: a guard and what becomes of a request
* `Guard.outcome`, `Guard.log`: what a guard makes of a request, and what it logs
-/

namespace FieldValidation

/-- A request: the path it names, and what is made of its query, of the form in its body, and of
the text of its body. -/
structure Request where
  path : Text
  query : Except Failure Value
  form : Except Failure Value
  body : Except Failure Text

/-- The part of a request that is guarded. -/
inductive RequestPart where
  | json
  | query
  | form
  deriving DecidableEq

/-- The name of a part. -/
def RequestPart.label : RequestPart → Text
  | .json => "json"
  | .query => "query"
  | .form => "form"

/-- What is taken out of a request. -/
inductive Extracted where
  | dataset (v : Value)
  /-- The body is not JSON, or could not be read. -/
  | notJson (reason : Text)
  /-- The body is a JSON scalar. -/
  | scalar
  /-- The query or the form could not be made out. -/
  | failed (failure : Failure)

namespace Extracted

/-- What a JSON document holds for a guard. -/
def ofDocument? : Option Value → Extracted
  | some (.record entries) => .dataset (.record entries)
  | some (.list items) => .dataset (.list items)
  | some _ => .scalar
  | none => .notJson parseFault

/-- What a body holds for a guard; one that cannot be read is not JSON. -/
def ofBody : Except Failure Text → Extracted
  | .ok t => ofDocument? (Json.read? t)
  | .error failure => .notJson failure.message

/-- What a query or a form holds for a guard. -/
def ofGiven : Except Failure Value → Extracted
  | .ok v => .dataset v
  | .error failure => .failed failure

end Extracted

/-- What is taken out of a request. -/
def extract : RequestPart → Request → Extracted
  | .json, request => .ofBody request.body
  | .query, request => .ofGiven request.query
  | .form, request => .ofGiven request.form

/-- A guard of one part of requests. -/
structure Guard where
  part : RequestPart
  validator : Validator

/-- What becomes of a request. -/
inductive GuardOutcome where
  | passed (dataset : Value)
  | refused (error : HttpError)
  | failed (failure : Failure)

/-- The answer to a body that is not JSON. -/
def notJsonError : HttpError :=
  .badRequest "Request body must be valid JSON" (.ofString "JSON_PARSE_ERROR") none

/-- The answer to a body that is a JSON scalar. -/
def scalarBodyError : HttpError :=
  .badRequest "Request body must be a JSON object or array" (.ofString "INVALID_BODY") none

namespace GuardOutcome

/-- What becomes of a request with a dataset, once that has been validated. -/
def ofValidation (dataset : Value) : Except Failure Unit → GuardOutcome
  | .ok () => .passed dataset
  | .error (.input error) => .refused error.toHttpError
  | .error failure => .failed failure

end GuardOutcome

namespace Guard

/-- What becomes of what was taken out of a request. -/
def outcomeOf (guard : Guard) (wording : Wording) : Extracted → GuardOutcome
  | .dataset v => .ofValidation v (guard.validator.validate wording v).result
  | .notJson _ => .refused notJsonError
  | .scalar => .refused scalarBodyError
  | .failed failure => .failed failure

/-- What becomes of a request. -/
def outcome (guard : Guard) (wording : Wording) (request : Request) : GuardOutcome :=
  guard.outcomeOf wording (extract guard.part request)

/-- The code of a failure that has none of its own. -/
def unknownCode : Text := "UNKNOWN"

/-- The entry of a failure that is not the sender's. -/
def failureEntry (guard : Guard) (request : Request) (failure : Failure) : LogEntry :=
  .withData .error "Request validation misconfigured"
    [("path", .text request.path), ("target", .text guard.part.label),
      ("code", .text (failure.code?.getD unknownCode)), ("error", .text failure.message)]

/-- The entry of a body that is not JSON, for a reason. -/
def notJsonEntry (request : Request) (reason : Text) : LogEntry :=
  .withData .debug "Request body is not valid JSON"
    [("path", .text request.path), ("error", .text reason)]

/-- What a guard logs of a request. -/
def log (guard : Guard) (wording : Wording) (request : Request) : List LogEntry :=
  match extract guard.part request with
  | .dataset v =>
    let validation := guard.validator.firstFailure wording v
    let failure := match guard.outcomeOf wording (.dataset v) with
      | .failed failure => [guard.failureEntry request failure]
      | _ => []
    guard.validator.entriesOfValidate validation.result ++ failure
  | .notJson reason => [notJsonEntry request reason]
  | .scalar => []
  | .failed _ => []

end Guard

end FieldValidation
