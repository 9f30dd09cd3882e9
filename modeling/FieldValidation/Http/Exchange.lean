import FieldValidation.Http.Guard

/-!
# Requests and their answers

A guard stands before the handler of a request. A request that passes is handled, with the dataset
that was validated; a refused one is answered by the guard, and a failure that is not the sender's
is left to the application.

## Main definitions

* `Response`: the answer to a request
* `Exchange`: what happens to a request
* `Guard.exchange`: what happens to a request before a guard
-/

namespace FieldValidation

/-- The answer to a request. -/
structure Response where
  status : Number
  body : Entries Value

/-- The answer that an error makes. -/
def HttpError.response (error : HttpError) : Response := ⟨error.status, error.body⟩

/-- The handler of the requests that pass, given the dataset that was validated. -/
abbrev Handler := Value → Except Failure Response

/-- What happens to a request. -/
structure Exchange where
  /-- The dataset that is validated, if one is, and the validation. -/
  validation : Option (Value × Traced Unit)
  /-- The datasets that the handler is given, one for each time it is run. -/
  handled : List Value
  /-- The answer, or the failure that is left to the application. -/
  answer : Except Failure Response
  /-- What the guard logs. -/
  log : List LogEntry

namespace Guard

/-- The validation of what was taken out of a request. -/
def validation? (guard : Guard) (wording : Wording) : Extracted → Option (Value × Traced Unit)
  | .dataset v => some (v, guard.validator.validate wording v)
  | .notJson _ | .scalar | .failed _ => none

/-- What happens to a request before a guard. -/
def exchange (guard : Guard) (wording : Wording) (handler : Handler) (request : Request) :
    Exchange :=
  let validation := guard.validation? wording (extract guard.part request)
  let log := guard.log wording request
  match guard.outcome wording request with
  | .passed dataset => ⟨validation, [dataset], handler dataset, log⟩
  | .refused error => ⟨validation, [], .ok error.response, log⟩
  | .failed failure => ⟨validation, [], .error failure, log⟩

end Guard

end FieldValidation
