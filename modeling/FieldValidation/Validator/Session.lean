import FieldValidation.Validator.Basic

/-!
# Using a validator

An application declares its rules and its messages in two objects of its own and makes a validator
from them. It may change both objects afterwards, between one validation and the next. The rules
were compiled when the validator was made; the object with the messages is shared with it.

## Main definitions

* `Session`: a validator together with the objects it was made from
* `Session.Step`: what an application does next
* `Session.after`: the session after some steps
* `Session.answer`: what a validation answers
-/

namespace FieldValidation

/-- A validator in use. Its messages are the object of the application, so they are not held
twice. -/
structure Session where
  declarations : Declarations
  validator : Validator

namespace Session

/-- A change of the objects that a validator was made from. -/
inductive Change where
  | setMessage (key text : Text)
  | deleteMessage (key : Text)
  /-- The rules of a field are replaced. -/
  | setRules (field : Text) (definitions : List Definition)
  /-- The rules of a field are extended by one. -/
  | pushRule (field : Text) (definition : Definition)

/-- A validation of a dataset, with the wording at the time. -/
inductive Call where
  | validate (wording : Wording) (dataset : Value)
  | validateAll (wording : Wording) (dataset : Value)

/-- What a validation comes to. -/
inductive Answer where
  | validated (result : Except Failure Unit)
  | reported (result : Except Failure Report)

/-- What an application does next. -/
inductive Step where
  | change (c : Change)
  | call (c : Call)

/-- Makes a validator. -/
def start (wording : Wording) (registry : Registry) (messages : Entries Text)
    (declarations : Declarations) : Except Failure Session := do
  return ⟨declarations, ← Validator.ofDeclarations wording registry messages declarations⟩

/-- The session after a change. -/
def change (s : Session) : Change → Session
  | .setMessage key text => { s with validator := s.validator.setMessage key text }
  | .deleteMessage key => { s with validator := s.validator.deleteMessage key }
  | .setRules field definitions =>
    { s with declarations := Entries.put s.declarations field definitions }
  | .pushRule field definition =>
    let definitions := (Entries.find? s.declarations field).getD []
    { s with declarations := Entries.put s.declarations field (definitions ++ [definition]) }

/-- The session after a step; a validation leaves it as it is. -/
def step (s : Session) : Step → Session
  | .change c => s.change c
  | .call _ => s

/-- The session after some steps. -/
def after (s : Session) (steps : List Step) : Session := steps.foldl step s

end Session

/-- What a validator answers. -/
def Validator.answer (v : Validator) : Session.Call → Session.Answer
  | .validate wording dataset => .validated (v.validate wording dataset).result
  | .validateAll wording dataset => .reported (v.validateAll wording dataset).result

/-- What a validation answers at this point of the session. -/
def Session.answer (s : Session) (call : Call) : Answer := s.validator.answer call

end FieldValidation
