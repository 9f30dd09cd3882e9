import FieldValidation.Host.Multipart
import FieldValidation.Host.Percent
import FieldValidation.Http.Guard
import FieldValidation.Settings.Environment

/-!
# Requests as they are sent

A host that serves requests, so that guards can be run. A request names a path and may go on with a
query; what follows a number sign is not sent. A query is a list of names and values, and so is a
form, which is written like a query or in several parts. No result speaks of this host: a guard is
given what the host makes of a request.

## Main definitions

* `SentRequest`: a request as it is sent
* `Query.dataset`, `Form.dataset`: the datasets that a query and a form are
* `SentRequest.received`: the request as it reaches a guard
-/

namespace FieldValidation

/-- A request as it is sent: what it names, and its body with the type of its content. -/
structure SentRequest where
  target : Text
  contentType : Option Text
  body : Option Text

namespace SentRequest

/-- What is sent of the target. -/
def sentTarget (request : SentRequest) : Text :=
  Text.wellFormed (request.target.takeWhile (· != unit '#'))

/-- The characters that mean something where they stand in a path, and whose escapes are left. -/
def pathMarks : Text := ";/?:@&=+$,#%"

/-- The steps of a path that lead nowhere, as they are written. -/
def stayingSteps : List Text := [".", "%2e"].map Text.ofString

/-- The steps of a path that lead back, as they are written. -/
def backSteps : List Text := ["..", ".%2e", "%2e.", "%2e%2e"].map Text.ofString

/-- The steps of a path without those that lead nowhere or back; a path that ends in one of these
ends in a slash. -/
def straightSteps (done : List Text) : List Text → List Text
  | [] => done
  | step :: rest =>
    let lower := step.toLower
    let isBack := backSteps.contains lower
    if isBack || stayingSteps.contains lower then
      let done := if isBack then done.dropLast else done
      straightSteps (if rest.isEmpty then done ++ [[]] else done) rest
    else straightSteps (done ++ [step]) rest

/-- The path as it is written: from a slash on, in straight steps. A backslash is a slash. -/
def writtenPath (request : SentRequest) : Text :=
  let slash := unit '/'
  let sent := (request.sentTarget.takeWhile (· != unit '?')).map fun u =>
    if u = unit '\\' then slash else u
  let steps := (Text.splitOn slash ((Text.dropPrefix? [slash] sent).getD sent))
  slash :: Text.join [slash] (straightSteps [] steps)

/-- The path, with escapes decoded unless they are of marks. -/
def path (request : SentRequest) : Text := Text.percentDecodeRuns pathMarks request.writtenPath

/-- The query as it is written. -/
def query (request : SentRequest) : Text := (request.sentTarget.dropWhile (· != unit '?')).drop 1

/-- The body; a request without one has the empty text. -/
def content (request : SentRequest) : Text := Text.wellFormed (request.body.getD [])

end SentRequest

/-! ## Queries

Of a name that is repeated the first value counts; names that are empty or taken from the start are
left out. All values are texts. -/

namespace Query

/-- The names and the values between the separators, not decoded. A name without a value has the
empty one. -/
def pairs (t : Text) : List (Text × Text) :=
  (Text.splitOn (unit '&') t).map fun piece => (Text.splitFirst? (unit '=') piece).getD (piece, [])

/-- A text with every plus sign made a space. -/
def plusToSpace (t : Text) : Text := t.map fun u => if u = unit '+' then unit ' ' else u

/-- A name or a value, decoded. -/
def decode (t : Text) : Text := Text.percentDecodeRuns [] (plusToSpace t)

/-- The entries with one more, unless its name is taken or empty. -/
def addEntry (entries : Entries Value) (name value : Text) : Entries Value :=
  if name = [] ∨ reservedNames.contains name ∨ entries.contains name then entries
  else entries.put name (.text value)

/-- The dataset that a query is. -/
def dataset (t : Text) : Value :=
  .record ((pairs t).foldl
    (fun entries (name, value) => addEntry entries (decode name) (decode value)) [])

end Query

/-! ## Forms

Of a name that is repeated the last value counts, unless the name ends in brackets: the values under
such a name are a list. -/

namespace Form

/-- The type of the content of forms that are written like queries. -/
def urlencodedType : Text := "application/x-www-form-urlencoded"

/-- The type of the content of forms in several parts. -/
def multipartType : Text := "multipart/form-data"

/-- A name or a value, decoded; escapes are taken for bytes, sound or not. -/
def decode (t : Text) : Text := Text.ofUtf8 (Text.percentBytes (Query.plusToSpace t))

/-- The names and the values of a form that is written like a query. A question mark in front is
left out, and so is what is empty between separators. -/
def urlencodedPairs (body : Text) : List (Text × Value) :=
  let written := (Text.dropPrefix? "?" body).getD body
  let pieces := (Text.splitOn (unit '&') written).filter (· != [])
  pieces.map fun piece =>
    let (name, value) := (Text.splitFirst? (unit '=') piece).getD (piece, [])
    (decode name, .text (decode value))

/-- The failure to read a body that is not made of parts although its type says so. -/
def malformedParts : Failure := .raised "Failed to parse body as FormData."

/-- The names and the values in a body. A body of any other type, or of none, has none. -/
def pairs (contentType : Option Text) (body : Text) : Except Failure (List (Text × Value)) :=
  match contentType.map Text.trim with
  | none => .ok []
  | some type =>
    if Text.startsWith type urlencodedType then .ok (urlencodedPairs body)
    else if Text.startsWith type multipartType then
      match Multipart.parts? type body with
      | some parts => .ok parts
      | none => .error malformedParts
    else .ok []

/-- What the names of lists end with. -/
def listMark : Text := "[]"

/-- The entries with a value put under a name, or added to the list under it. -/
def addEntry (entries : Entries Value) (name : Text) (value : Value) : Entries Value :=
  if Text.endsWith name listMark then
    match Entries.find? entries name with
    | some (.list items) => entries.put name (.list (items ++ [some value]))
    | _ => entries.put name (.list [some value])
  else entries.put name value

/-- The dataset that a body is. -/
def dataset (contentType : Option Text) (body : Text) : Except Failure Value := do
  let entries := (← pairs contentType body).foldl
    (fun entries (name, value) => addEntry entries name value) []
  return .record entries

end Form

/-- The request as it reaches a guard. A mark of byte order before the body is left out where its
text is asked for. -/
def SentRequest.received (request : SentRequest) : Request where
  path := request.path
  query := .ok (Query.dataset request.query)
  form := Form.dataset request.contentType request.content
  body :=
    .ok (if request.content.head? = some 0xFEFF then request.content.tail else request.content)

end FieldValidation
