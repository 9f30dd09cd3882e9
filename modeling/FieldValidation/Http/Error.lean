import FieldValidation.Failure.Basic

/-!
# Errors of requests

The error that answers a request: a status, a text, a code and details. A refusal of the data
becomes a bad request that names the field and the code of the refusal.

## Main definitions

* `HttpError`: an error that answers a request
* `HttpError.body`: the body of the answer
* `InputError.toHttpError`: the answer to a refusal of the data
-/

namespace FieldValidation

/-- An error that answers a request. The code is a text, and null or undefined where there is
none. -/
structure HttpError where
  status : Number
  message : Text
  code : Value
  details : Option (Entries Value)

namespace HttpError

/-- The code of a bad request, unless it has another. -/
def badRequestCode : Text := "BAD_REQUEST"

/-- A request that cannot be served as it is. -/
def badRequest (message : Text) (code : Value) (details : Option (Entries Value)) : HttpError where
  status := .ofNat 400
  message := message
  code := match code with
    | .undefined => .text badRequestCode
    | code => code
  details := details

/-- The body of the answer. -/
def body (error : HttpError) : Entries Value :=
  let entries : Entries Value :=
    [("success", .bool false), ("error", .text error.message), ("error_code", error.code),
      ("status_code", .number error.status)]
  match error.details with
  | some details => entries ++ [(Text.ofString "details", .record details)]
  | none => entries

end HttpError

/-- The code of the answer to every refusal of the data. -/
def refusalCode : Text := "VALIDATION_ERROR"

/-- The answer to a refusal of the data. -/
def InputError.toHttpError (error : InputError) : HttpError :=
  let field : Entries Value := match error.field with
    | some field => [("field", field.toValue)]
    | none => []
  .badRequest error.message (.text refusalCode)
    (some (field ++ [(Text.ofString "reason", .text error.code)]))

end FieldValidation
