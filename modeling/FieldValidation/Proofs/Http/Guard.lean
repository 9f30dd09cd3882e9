import FieldValidation.Http.Exchange
import FieldValidation.Proofs.Failure.Kinds
import FieldValidation.Proofs.Validator.Fields

/-!
# What becomes of a guarded request

A request before a guard ends in one of six ways. Its body is not JSON, or is a JSON scalar: then
it is answered without a validation. Its query or its form could not be made out: then that failure
is the answer. Otherwise the dataset that it holds is validated, and the way the validation ends
decides: the handler is given the dataset, or the sender is told what is refused, or the failure is
logged and left to the application.

When a request ends in which way is said of the request itself and of the validation of what it
holds; what is then seen of it is said of the exchange.

## Main definitions

* `Request.Holds`: a part of a request holds a dataset
* `RequestEnding`: the ways in which a request ends
* `Guard.Meets`: when a request ends in one of them
* `Guard.Shows`: what is seen of a request that does

## Main results

* `Guard.meets_ending`, `Guard.Meets.eq_ending`: a request ends in the one way that is found for it
* `Guard.shows_ending`: what is seen of it belongs to that way
* `Guard.exactly_one_ending`: the three together
-/

namespace FieldValidation

/-! ## The log -/

namespace LogEntry

/-- The line of an entry, if it goes to the stream of errors. -/
def errorLine? (entry : LogEntry) (environment : Environment) (now : Text) : Option Text :=
  match entry.written? environment now with
  | some (.error, line) => some line
  | _ => none

variable {entry : LogEntry}

theorem errorLine?_of_debug (h : entry.level = .debug) (environment : Environment) (now : Text) :
    entry.errorLine? environment now = none := by
  unfold errorLine? written?
  rw [h]
  cases environment.isDebugging <;> rfl

theorem errorLine?_of_error (h : entry.level = .error) (environment : Environment) (now : Text) :
    entry.errorLine? environment now = some (entry.line environment now) := by
  unfold errorLine? written?
  rw [h]
  rfl

end LogEntry

/-- The lines that an exchange leaves in the stream of errors. -/
def Exchange.errorLines (x : Exchange) (environment : Environment) (now : Text) : List Text :=
  x.log.filterMap fun entry => entry.errorLine? environment now

/-- A validation leaves debug entries only. -/
theorem Validator.level_of_mem_entriesOfValidate {v : Validator}
    {result : Except Failure (Option FieldFailure)} {entry : LogEntry}
    (h : entry ∈ v.entriesOfValidate result) : entry.level = .debug := by
  match result with
  | .ok none | .ok (some _) =>
    obtain rfl := List.mem_singleton.mp h
    rfl
  | .error _ => cases h

/-! ## What is taken out of a request -/

/-- A value is an object or a list. -/
def Value.IsCollection (v : Value) : Prop :=
  (∃ entries, v = .record entries) ∨ ∃ items, v = .list items

/-- A part of a request holds a dataset: what is made of the query or of the form, or the object or
the list that the body is as JSON. -/
def Request.Holds (request : Request) (part : RequestPart) (dataset : Value) : Prop :=
  match part with
  | .query => request.query = .ok dataset
  | .form => request.form = .ok dataset
  | .json => ∃ t, request.body = .ok t ∧ Json.read? t = some dataset ∧ dataset.IsCollection

namespace Extracted

theorem ofDocument?_of_isCollection {v : Value} (h : v.IsCollection) :
    ofDocument? (some v) = .dataset v := by
  rcases h with ⟨entries, rfl⟩ | ⟨items, rfl⟩ <;> rfl

theorem ofDocument?_of_not_isCollection {v : Value} (h : ¬ v.IsCollection) :
    ofDocument? (some v) = .scalar := by
  cases v with
  | record entries => exact absurd (.inl ⟨entries, rfl⟩) h
  | list items => exact absurd (.inr ⟨items, rfl⟩) h
  | _ => rfl

/-- The ways in which a body is taken: it is not JSON, or a collection, or a scalar. -/
theorem ofBody_cases (body : Except Failure Text) :
    ((∀ t, body = .ok t → Json.read? t = none) ∧ ∃ reason, ofBody body = .notJson reason) ∨
    ∃ t v, body = .ok t ∧ Json.read? t = some v ∧
      (v.IsCollection ∧ ofBody body = .dataset v ∨
        ¬ v.IsCollection ∧ ofBody body = .scalar) := by
  cases body with
  | error failure => exact .inl ⟨nofun, failure.message, rfl⟩
  | ok t =>
    rw [ofBody]
    cases hread : Json.read? t with
    | none =>
      refine .inl ⟨?_, parseFault, rfl⟩
      rintro _ ⟨⟩
      exact hread
    | some v =>
      refine .inr ⟨t, v, rfl, hread, ?_⟩
      by_cases hv : v.IsCollection
      · exact .inl ⟨hv, ofDocument?_of_isCollection hv⟩
      · exact .inr ⟨hv, ofDocument?_of_not_isCollection hv⟩

end Extracted

section Extraction

variable {request : Request} {part : RequestPart} {dataset : Value} {failure : Failure}

theorem extract_eq_dataset_iff :
    extract part request = .dataset dataset ↔ request.Holds part dataset := by
  cases part with
  | query => cases h : request.query <;> simp [extract, Extracted.ofGiven, Request.Holds, h]
  | form => cases h : request.form <;> simp [extract, Extracted.ofGiven, Request.Holds, h]
  | json =>
    rw [extract, Request.Holds]
    rcases Extracted.ofBody_cases request.body with
      ⟨hnone, reason, hbody⟩ | ⟨t, v, ht, hread, ⟨hv, hbody⟩ | ⟨hv, hbody⟩⟩ <;> rw [hbody]
    · refine ⟨nofun, ?_⟩
      rintro ⟨t, ht, hread, -⟩
      rw [hnone t ht] at hread
      cases hread
    · rw [ht]
      constructor
      · rintro ⟨⟩
        exact ⟨t, rfl, hread, hv⟩
      · rintro ⟨_, ⟨⟩, hother, -⟩
        rw [Option.some.inj (hread.symm.trans hother)]
    · refine ⟨nofun, ?_⟩
      rintro ⟨_, hother, hsame, hcollection⟩
      obtain rfl := Except.ok.inj (ht.symm.trans hother)
      obtain rfl := Option.some.inj (hread.symm.trans hsame)
      exact absurd hcollection hv

theorem exists_extract_eq_notJson_iff :
    (∃ reason, extract part request = .notJson reason) ↔
      part = .json ∧ ∀ t, request.body = .ok t → Json.read? t = none := by
  cases part with
  | query => cases h : request.query <;> simp [extract, Extracted.ofGiven, h]
  | form => cases h : request.form <;> simp [extract, Extracted.ofGiven, h]
  | json =>
    rcases Extracted.ofBody_cases request.body with
      ⟨hnone, reason, hbody⟩ | ⟨t, v, ht, hread, ⟨-, hbody⟩ | ⟨-, hbody⟩⟩ <;> rw [extract, hbody]
    · exact iff_of_true ⟨reason, rfl⟩ ⟨rfl, hnone⟩
    all_goals
      simp [ht, hread]

theorem extract_eq_scalar_iff :
    extract part request = .scalar ↔
      part = .json ∧
        ∃ t document, request.body = .ok t ∧ Json.read? t = some document ∧
          ¬ document.IsCollection := by
  cases part with
  | query => cases h : request.query <;> simp [extract, Extracted.ofGiven, h]
  | form => cases h : request.form <;> simp [extract, Extracted.ofGiven, h]
  | json =>
    rcases Extracted.ofBody_cases request.body with
      ⟨hnone, reason, hbody⟩ | ⟨t, v, ht, hread, ⟨hv, hbody⟩ | ⟨hv, hbody⟩⟩ <;> rw [extract, hbody]
    · refine iff_of_false nofun ?_
      rintro ⟨-, t, document, ht, hread, -⟩
      rw [hnone t ht] at hread
      cases hread
    · simp [ht, hread, hv]
    · simp [ht, hread, hv]

theorem extract_eq_failed_iff :
    extract part request = .failed failure ↔
      part = .query ∧ request.query = .error failure ∨
        part = .form ∧ request.form = .error failure := by
  cases part with
  | query => cases h : request.query <;> simp [extract, Extracted.ofGiven, h]
  | form => cases h : request.form <;> simp [extract, Extracted.ofGiven, h]
  | json =>
    rcases Extracted.ofBody_cases request.body with
      ⟨-, reason, hbody⟩ | ⟨t, v, -, -, ⟨-, hbody⟩ | ⟨-, hbody⟩⟩ <;> simp [extract, hbody]

end Extraction

/-! ## The ways to end -/

/-- How a request ends before a guard. -/
inductive RequestEnding where
  /-- The body is not JSON. -/
  | notJson
  /-- The body is a JSON scalar. -/
  | scalar
  /-- The query or the form could not be made out. -/
  | unread (failure : Failure)
  /-- The dataset is valid. -/
  | passed (dataset : Value)
  /-- The dataset is refused. -/
  | refused (dataset : Value) (error : InputError)
  /-- The dataset could not be judged. -/
  | failed (dataset : Value) (failure : Failure)

/-- The answer to a bad request. -/
def Response.badRequest (message code : Text) (details : Option (Entries Value)) : Response where
  status := .ofNat 400
  body :=
    let entries : Entries Value :=
      [("success", .bool false), ("error", .text message), ("error_code", .text code),
        ("status_code", .number (.ofNat 400))]
    entries ++ (details.map fun details => (Text.ofString "details", .record details)).toList

/-- What is told of a refusal besides its text: the field, if there is one, and the code. -/
def InputError.details (error : InputError) : Entries Value :=
  (error.field.map fun field => (Text.ofString "field", field.toValue)).toList ++
    [(Text.ofString "reason", .text error.code)]

namespace Guard

/-- When a request ends in a certain way. -/
def Meets (guard : Guard) (wording : Wording) (request : Request) : RequestEnding → Prop
  | .notJson => guard.part = .json ∧ ∀ t, request.body = .ok t → Json.read? t = none
  | .scalar =>
    guard.part = .json ∧
      ∃ t document, request.body = .ok t ∧ Json.read? t = some document ∧ ¬ document.IsCollection
  | .unread failure =>
    guard.part = .query ∧ request.query = .error failure ∨
      guard.part = .form ∧ request.form = .error failure
  | .passed dataset =>
    request.Holds guard.part dataset ∧
      (guard.validator.validate wording dataset).result = .ok ()
  | .refused dataset error =>
    request.Holds guard.part dataset ∧
      (guard.validator.validate wording dataset).result = .error (.input error)
  | .failed dataset failure =>
    request.Holds guard.part dataset ∧
      (guard.validator.validate wording dataset).result = .error failure ∧
      failure.isRefusal = false

/-- What is seen of a request that ends in a certain way. -/
def Shows (guard : Guard) (wording : Wording) (handler : Handler) (request : Request)
    (ending : RequestEnding) : Prop :=
  let x := guard.exchange wording handler request
  match ending with
  | .notJson =>
    x.validation = none ∧ x.handled = [] ∧
      x.answer = .ok (.badRequest "Request body must be valid JSON" "JSON_PARSE_ERROR" none) ∧
      ∀ environment now, x.errorLines environment now = []
  | .scalar =>
    x.validation = none ∧ x.handled = [] ∧
      x.answer =
        .ok (.badRequest "Request body must be a JSON object or array" "INVALID_BODY" none) ∧
      ∀ environment now, x.errorLines environment now = []
  | .unread failure =>
    x.validation = none ∧ x.handled = [] ∧ x.answer = .error failure ∧
      ∀ environment now, x.errorLines environment now = []
  | .passed dataset =>
    x.validation = some (dataset, guard.validator.validate wording dataset) ∧
      x.handled = [dataset] ∧ x.answer = handler dataset ∧
      ∀ environment now, x.errorLines environment now = []
  | .refused dataset error =>
    x.validation = some (dataset, guard.validator.validate wording dataset) ∧
      x.handled = [] ∧
      x.answer = .ok (.badRequest error.message "VALIDATION_ERROR" (some error.details)) ∧
      ∀ environment now, x.errorLines environment now = []
  | .failed dataset failure =>
    x.validation = some (dataset, guard.validator.validate wording dataset) ∧
      x.handled = [] ∧ x.answer = .error failure ∧
      ∀ environment now,
        x.errorLines environment now = [(guard.failureEntry request failure).line environment now]

variable {guard : Guard} {wording : Wording} {handler : Handler} {request : Request}
  {dataset : Value} {reason : Text} {failure : Failure}

/-! ## The exchange -/

theorem exchange_of_notJson (h : extract guard.part request = .notJson reason) :
    guard.exchange wording handler request =
      ⟨none, [], .ok notJsonError.response, [notJsonEntry request reason]⟩ := by
  simp only [exchange, validation?, outcome, outcomeOf, log, h]

theorem exchange_of_scalar (h : extract guard.part request = .scalar) :
    guard.exchange wording handler request = ⟨none, [], .ok scalarBodyError.response, []⟩ := by
  simp only [exchange, validation?, outcome, outcomeOf, log, h]

theorem exchange_of_unread (h : extract guard.part request = .failed failure) :
    guard.exchange wording handler request = ⟨none, [], .error failure, []⟩ := by
  simp only [exchange, validation?, outcome, outcomeOf, log, h]

/-- The entries that the validation of a dataset leaves in the log. -/
def validationLog (guard : Guard) (wording : Wording) (dataset : Value) : List LogEntry :=
  guard.validator.entriesOfValidate (guard.validator.firstFailure wording dataset).result

theorem exchange_of_passed (h : extract guard.part request = .dataset dataset)
    (hresult : (guard.validator.validate wording dataset).result = .ok ()) :
    guard.exchange wording handler request =
      ⟨some (dataset, guard.validator.validate wording dataset), [dataset], handler dataset,
        guard.validationLog wording dataset⟩ := by
  simp only [exchange, validation?, outcome, outcomeOf, log, h, hresult,
    GuardOutcome.ofValidation, List.append_nil, validationLog]

theorem exchange_of_refused {error : InputError}
    (h : extract guard.part request = .dataset dataset)
    (hresult : (guard.validator.validate wording dataset).result = .error (.input error)) :
    guard.exchange wording handler request =
      ⟨some (dataset, guard.validator.validate wording dataset), [],
        .ok error.toHttpError.response, guard.validationLog wording dataset⟩ := by
  simp only [exchange, validation?, outcome, outcomeOf, log, h, hresult,
    GuardOutcome.ofValidation, List.append_nil, validationLog]

theorem exchange_of_failed (h : extract guard.part request = .dataset dataset)
    (hresult : (guard.validator.validate wording dataset).result = .error failure)
    (hfailure : failure.isRefusal = false) :
    guard.exchange wording handler request =
      ⟨some (dataset, guard.validator.validate wording dataset), [], .error failure,
        guard.validationLog wording dataset ++ [guard.failureEntry request failure]⟩ := by
  have houtcome : GuardOutcome.ofValidation dataset (.error failure) = .failed failure := by
    cases failure with
    | input error => cases hfailure
    | _ => rfl
  simp only [exchange, validation?, outcome, outcomeOf, log, h, hresult, houtcome, validationLog]

/-- The answer to a refusal tells its text, its field and its code. -/
theorem response_toHttpError (error : InputError) :
    error.toHttpError.response =
      .badRequest error.message "VALIDATION_ERROR" (some error.details) := by
  unfold InputError.toHttpError InputError.details
  cases error.field <;> rfl

theorem errorLines_of_debug {entries : List LogEntry} (h : ∀ entry ∈ entries, entry.level = .debug)
    (environment : Environment) (now : Text) :
    entries.filterMap (fun entry => entry.errorLine? environment now) = [] :=
  List.filterMap_eq_nil_iff.mpr fun entry hentry =>
    LogEntry.errorLine?_of_debug (h entry hentry) environment now

/-- The validation of a dataset leaves nothing in the stream of errors. -/
theorem errorLines_validationLog (guard : Guard) (wording : Wording) (dataset : Value)
    (environment : Environment) (now : Text) :
    (guard.validationLog wording dataset).filterMap
      (fun entry => entry.errorLine? environment now) = [] :=
  errorLines_of_debug (fun _ => Validator.level_of_mem_entriesOfValidate) environment now

/-! ## The one ending -/

/-- The way in which a request ends that holds a dataset, by how the validation of it ends. -/
def endingOf (dataset : Value) : Except Failure Unit → RequestEnding
  | .ok () => .passed dataset
  | .error (.input error) => .refused dataset error
  | .error failure => .failed dataset failure

theorem endingOf_of_failure (h : failure.isRefusal = false) :
    endingOf dataset (.error failure) = .failed dataset failure := by
  cases failure with
  | input error => cases h
  | _ => rfl

/-- The ways in which the validation of a dataset ends. -/
theorem result_cases (result : Except Failure Unit) :
    result = .ok () ∨ (∃ error, result = .error (.input error)) ∨
      ∃ failure, result = .error failure ∧ failure.isRefusal = false := by
  cases result with
  | ok _ => exact .inl rfl
  | error failure =>
    cases failure with
    | input error => exact .inr (.inl ⟨error, rfl⟩)
    | _ => exact .inr (.inr ⟨_, rfl, rfl⟩)

/-- The way in which a request ends, found from what is taken out of it and its validation. -/
def ending (guard : Guard) (wording : Wording) (request : Request) : RequestEnding :=
  match extract guard.part request with
  | .notJson _ => .notJson
  | .scalar => .scalar
  | .failed failure => .unread failure
  | .dataset dataset => endingOf dataset (guard.validator.validate wording dataset).result

theorem ending_of_dataset (h : extract guard.part request = .dataset dataset) :
    guard.ending wording request =
      endingOf dataset (guard.validator.validate wording dataset).result := by
  rw [ending, h]

/-- A request ends in the way that is found for it. -/
theorem meets_ending (guard : Guard) (wording : Wording) (request : Request) :
    guard.Meets wording request (guard.ending wording request) := by
  unfold ending
  cases hextract : extract guard.part request with
  | notJson reason => exact exists_extract_eq_notJson_iff.mp ⟨reason, hextract⟩
  | scalar => exact extract_eq_scalar_iff.mp hextract
  | failed failure => exact extract_eq_failed_iff.mp hextract
  | dataset dataset =>
    have hholds := extract_eq_dataset_iff.mp hextract
    rcases result_cases (guard.validator.validate wording dataset).result with
      hresult | ⟨error, hresult⟩ | ⟨failure, hresult, hfailure⟩
    · simp only [hresult]
      exact ⟨hholds, hresult⟩
    · simp only [hresult]
      exact ⟨hholds, hresult⟩
    · simp only [hresult, endingOf_of_failure hfailure]
      exact ⟨hholds, hresult, hfailure⟩

/-- A request ends in no other way than the one that is found for it. -/
theorem Meets.eq_ending {ending : RequestEnding} (h : guard.Meets wording request ending) :
    ending = guard.ending wording request := by
  unfold Guard.ending
  cases ending with
  | notJson =>
    obtain ⟨reason, hextract⟩ := exists_extract_eq_notJson_iff.mpr h
    rw [hextract]
  | scalar => rw [extract_eq_scalar_iff.mpr h]
  | unread failure => rw [extract_eq_failed_iff.mpr h]
  | passed dataset =>
    obtain ⟨hholds, hresult⟩ := h
    simp only [extract_eq_dataset_iff.mpr hholds, hresult, endingOf]
  | refused dataset error =>
    obtain ⟨hholds, hresult⟩ := h
    simp only [extract_eq_dataset_iff.mpr hholds, hresult, endingOf]
  | failed dataset failure =>
    obtain ⟨hholds, hresult, hfailure⟩ := h
    simp only [extract_eq_dataset_iff.mpr hholds, hresult, endingOf_of_failure hfailure]

/-- What is seen of a request belongs to the way in which it ends. -/
theorem shows_ending (guard : Guard) (wording : Wording) (handler : Handler) (request : Request) :
    guard.Shows wording handler request (guard.ending wording request) := by
  cases hextract : extract guard.part request with
  | notJson reason =>
    rw [ending, hextract, Shows, exchange_of_notJson hextract]
    refine ⟨rfl, rfl, rfl, errorLines_of_debug ?_⟩
    intro entry hentry
    obtain rfl := List.mem_singleton.mp hentry
    rfl
  | scalar =>
    rw [ending, hextract, Shows, exchange_of_scalar hextract]
    exact ⟨rfl, rfl, rfl, fun _ _ => rfl⟩
  | failed failure =>
    rw [ending, hextract, Shows, exchange_of_unread hextract]
    exact ⟨rfl, rfl, rfl, fun _ _ => rfl⟩
  | dataset dataset =>
    rw [ending_of_dataset hextract]
    have hlog := guard.errorLines_validationLog wording dataset
    rcases result_cases (guard.validator.validate wording dataset).result with
      hresult | ⟨error, hresult⟩ | ⟨failure, hresult, hfailure⟩
    · rw [hresult, endingOf, Shows, exchange_of_passed hextract hresult]
      exact ⟨rfl, rfl, rfl, hlog⟩
    · rw [hresult, endingOf, Shows, exchange_of_refused hextract hresult, response_toHttpError]
      exact ⟨rfl, rfl, rfl, hlog⟩
    · rw [hresult, endingOf_of_failure hfailure, Shows,
        exchange_of_failed hextract hresult hfailure]
      refine ⟨rfl, rfl, rfl, fun environment now => ?_⟩
      have hline : (guard.failureEntry request failure).errorLine? environment now =
          some ((guard.failureEntry request failure).line environment now) :=
        LogEntry.errorLine?_of_error rfl environment now
      simp only [Exchange.errorLines, List.filterMap_append, hlog, List.nil_append,
        List.filterMap_cons, hline, List.filterMap_nil]

/-- **Every request ends in just one way.** Whatever is guarded and however it is validated, a
request meets the conditions of one ending and of no other: its body is not JSON, or a JSON scalar;
or its query or its form could not be made out; or the dataset that it holds is valid, or refused,
or cannot be judged. What is then seen belongs to that ending: a body that is no JSON collection is
answered without a validation, and otherwise the dataset is validated, and the handler is given it
once, or a refusal is told to the sender, or any other failure is logged once and left to the
application. -/
theorem exactly_one_ending (guard : Guard) (wording : Wording) (handler : Handler)
    (request : Request) :
    (∃ ending, guard.Meets wording request ending ∧
      ∀ other, guard.Meets wording request other → other = ending) ∧
    ∀ ending, guard.Meets wording request ending →
      guard.Shows wording handler request ending := by
  refine ⟨⟨_, guard.meets_ending wording request, fun _ hother => hother.eq_ending⟩, ?_⟩
  intro ending hending
  rw [hending.eq_ending]
  exact guard.shows_ending wording handler request

end Guard

end FieldValidation
