import FieldValidation.Proofs.Http.Guard
import FieldValidation.Proofs.Rule.Reworded
import FieldValidation.Proofs.Rule.Violations
import FieldValidation.Proofs.Validator.Agreement
import FieldValidation.Proofs.Validator.Compilation

/-!
# Which refusals name their field

A refusal of the data comes from the resolution of presence, from a named rule or from a predicate.
The first two name the field that is checked, with a text of the application or without, and so does
the violation that a predicate is charged with for answering `false`. But what a predicate raises
itself is passed on as it is. So the refusal that a validation stops with names the field where it
stops, and the answer to a request tells the field, unless a predicate of that field raised the
refusal itself and named another field or none.

## Main definitions

* `Refused`: where the refusal of a field comes from
* `Validator.StopsAt`: a validation stops at a field
* `Validator.TellsField`: the answers to requests tell the field of a refusal

## Main results

* `FieldRule.field_of_refusal`: what a rule refuses names the field
* `Refused.field_eq`: what is refused names the field
* `Validator.validate_names_field`: what a validation stops with names the field where it stops
-/

namespace FieldValidation

/-! ## Rules -/

section Rules

variable {checks : Checks} {wording : Wording} {field : FieldId} {value : Value}
  {error : InputError}

/-- There are none but the built-in rules. -/
theorem Registry.exists_of_find?_standard {name : Text} {found : Rule}
    (h : (standard checks).find? name = some found) :
    ∃ rule : BuiltinRule, found = .builtin rule := by
  obtain ⟨key, hmem, -⟩ := exists_of_find?_ofRules h
  rw [List.append_nil] at hmem
  obtain ⟨rule, -, heq⟩ := List.mem_map.mp hmem
  exact ⟨rule, (Prod.mk.inj heq).2.symm⟩

/-- With a text or without, what refuses a field goes on naming it. -/
theorem Failure.field_of_reword {original : InputError} {message : Option Text}
    (hfield : original.field = some field)
    (h : (Failure.input original).reword field message = .input error) :
    error.field = some field := by
  cases hviolation : original.kind.isViolation with
  | false =>
    rw [reword_of_not_isViolation field hviolation] at h
    obtain rfl := Failure.input.inj h
    exact hfield
  | true =>
    cases message with
    | none =>
      rw [reword_none] at h
      obtain rfl := Failure.input.inj h
      exact hfield
    | some text =>
      rw [reword_of_isViolation field hviolation] at h
      obtain rfl := Failure.input.inj h
      rfl

/-- What a named rule refuses names the field. -/
theorem NamedRule.field_of_refusal {rule : NamedRule}
    (h : rule.validate (.standard checks) wording field value = .error (.input error)) :
    error.field = some field := by
  rw [show rule = { rule with message := rule.message } from rfl, validate_message] at h
  cases hplain : ({ rule with message := none } : NamedRule).validate (.standard checks) wording
      field value with
  | ok _ => rw [hplain] at h; cases h
  | error failure =>
    rw [hplain] at h
    have hreword : failure.reword field rule.message = .input error := Except.error.inj h
    cases failure with
    | input original =>
      obtain ⟨-, found, hfind, hrun⟩ := exists_of_refusal rfl hplain
      obtain ⟨builtin, rfl⟩ := Registry.exists_of_find?_standard hfind
      obtain ⟨text, rfl⟩ := BuiltinRule.exists_of_validate hrun
      exact Failure.field_of_reword rfl hreword
    | _ => cases hreword

/-- What a predicate refuses names the field, or the predicate raised it itself. -/
theorem Predicate.field_of_refusal {p : Predicate}
    (h : p.validate wording field value = .error (.input error)) :
    error.field = some field ∨ p.answer value = .error (.input error) := by
  unfold validate at h
  cases hanswer : p.answer value with
  | error failure =>
    rw [hanswer] at h
    obtain rfl : failure = .input error := Except.error.inj h
    exact .inr rfl
  | ok answer =>
    left
    rw [hanswer] at h
    simp only [bind, Except.bind] at h
    split at h
    · rcases Wording.of_tell_eq_error h with ⟨text, hfailure⟩ | ⟨fault, hfailure⟩
      · obtain rfl := Failure.input.inj hfailure
        rfl
      · cases hfailure
    · cases h

/-- What a rule refuses names the field, unless it is a predicate that raised the refusal itself. -/
theorem FieldRule.field_of_refusal {rule : FieldRule}
    (h : rule.validate (.standard checks) wording field value = .error (.input error)) :
    error.field = some field ∨
      ∃ p, rule = .predicate p ∧ p.answer value = .error (.input error) := by
  cases rule with
  | named rule => exact .inl (NamedRule.field_of_refusal h)
  | predicate p => exact (Predicate.field_of_refusal h).imp_right fun hown => ⟨p, rfl, hown⟩

end Rules

/-! ## The check of a field -/

/-- Where the refusal of a field comes from. -/
inductive Refused (v : Validator) (wording : Wording) (dataset : Value) (field : Text)
    (rules : List FieldRule) : InputError → Prop
  /-- The presence of the field is refused. -/
  | presence {r : Requirement} {error : InputError}
      (hrules : Requirement.ofRules wording field rules dataset.hasField = .ok r)
      (hrefusal : r.refusal? wording = .ok (some error)) :
      Refused v wording dataset field rules
        (Validator.requirementFailure v.messages field r.outcome error).error
  /-- A rule refuses the value of the field. -/
  | value {rule : FieldRule} {value : Value} {error : InputError} (hmem : rule ∈ rules)
      (hlookup : dataset.lookup field = some value)
      (hrefusal : rule.validate v.registry wording field value = .error (.input error)) :
      Refused v wording dataset field rules error

variable {v : Validator} {wording : Wording} {dataset : Value} {field : Text}
  {rules : List FieldRule} {error : InputError}

/-- What is found wrong with a field was refused in one of the two ways. -/
theorem Validator.refused_of_verdict {failure : FieldFailure}
    (h : v.verdict wording dataset (field, rules) = .ok (some failure)) :
    Refused v wording dataset field rules failure.error := by
  have hcheck := v.checkField_fieldCheck wording dataset field rules
  unfold verdict at h
  dsimp only at h
  generalize v.checkField wording dataset field rules = check at h hcheck
  cases hcheck with
  | refused hrules hrefusal =>
    obtain rfl := Option.some.inj (Except.ok.inj h)
    exact .presence hrules hrefusal
  | defective | wordless | absent | null => cases h
  | ran hrules hvalid hlookup hnull =>
    obtain ⟨rule, hmem, hrefusal, -⟩ := exists_of_runRules h
    exact .value (List.mem_filter.mp hmem).1 hlookup hrefusal

/-- The refusal of the presence of a field names it, with a text of the application or without. -/
theorem Validator.field_requirementFailure {r : Requirement}
    (hrules : Requirement.ofRules wording field rules dataset.hasField = .ok r)
    (hrefusal : r.refusal? wording = .ok (some error)) (messages : Entries Text) :
    (requirementFailure messages field r.outcome error).error.field = some (.name field) := by
  obtain ⟨constraints, -, rfl⟩ := Requirement.ofRules_eq_ok hrules
  obtain ⟨text, rfl⟩ := Requirement.refusal?_eq_some hrefusal
  unfold requirementFailure
  dsimp only
  split <;> rfl

/-- What is refused names the field, unless a predicate of the field raised the refusal itself. -/
theorem Refused.field_eq {checks : Checks} (h : Refused v wording dataset field rules error)
    (hregistry : v.registry = .standard checks) :
    error.field = some (.name field) ∨
      ∃ p value, FieldRule.predicate p ∈ rules ∧ dataset.lookup field = some value ∧
        p.answer value = .error (.input error) := by
  cases h with
  | presence hrules hrefusal =>
    exact .inl (Validator.field_requirementFailure hrules hrefusal v.messages)
  | @value rule value error hmem hlookup hrefusal =>
    rw [hregistry] at hrefusal
    refine (FieldRule.field_of_refusal hrefusal).imp_right ?_
    rintro ⟨p, rfl, hown⟩
    exact ⟨p, value, hmem, hlookup, hown⟩

/-- A predicate that is run was declared. -/
theorem exists_of_predicate_mem {messages : Entries Text} {declarations : Declarations}
    {fields : CompiledRules} (h : compile wording messages declarations = .ok fields)
    (hentry : (field, rules) ∈ fields) {p : Predicate} (hmem : FieldRule.predicate p ∈ rules) :
    ∃ definitions, (field, definitions) ∈ declarations ∧ .predicate p ∈ definitions := by
  obtain ⟨definitions, hdeclared, hrules⟩ := exists_definitions_of_mem h hentry
  obtain ⟨definition, hdefinition, hrule⟩ := exists_of_mem_mapM hrules hmem
  refine ⟨definitions, hdeclared, ?_⟩
  cases definition with
  | predicate p' =>
    cases hrule
    exact hdefinition
  | text rule =>
    unfold Definition.compile at hrule
    dsimp only at hrule
    split at hrule
    · cases hrule
    · exact absurd hrule Wording.tell_ne_ok

/-! ## The validation -/

namespace Validator

/-- The validation of a dataset stops at a field: those before it pass, it is refused with the
error, and a report begins with it. -/
structure StopsAt (v : Validator) (wording : Wording) (dataset : Value) (field : Text)
    (error : InputError) : Prop where
  refused : ∃ before rules after failure, v.fields = before ++ (field, rules) :: after ∧
    (∀ entry ∈ before, v.verdict wording dataset entry = .ok none) ∧
    v.verdict wording dataset (field, rules) = .ok (some failure) ∧ failure.error = error
  reported : ∀ report, (v.validateAll wording dataset).result = .ok report →
    ∃ first, report.errors.head? = some first ∧ first.field = field ∧
      first.code = error.code ∧ first.message = error.message

/-- Requests with a dataset that is refused are answered with the field in the details. -/
def TellsField (v : Validator) (wording : Wording) (dataset : Value) (field : Text)
    (error : InputError) : Prop :=
  ∀ (guard : Guard) (handler : Handler) (request : Request), guard.validator = v →
    extract guard.part request = .dataset dataset →
    (guard.exchange wording handler request).answer = .ok (.badRequest error.message
      "VALIDATION_ERROR" (some [("field", .text field), ("reason", .text error.code)]))

/-- A validation that is refused stops at a field. -/
theorem stopsAt_of_validate (h : (v.validate wording dataset).result = .error (.input error)) :
    ∃ field, v.StopsAt wording dataset field error := by
  obtain ⟨before, ⟨field, rules⟩, after, hfields, hpass, hstop⟩ := exists_stop_of_validate h
  rcases hstop with hended | ⟨failure, hverdict, herror⟩
  · cases not_isRefusal_of_verdict hended
  · obtain rfl := Failure.input.inj herror
    refine ⟨field, ⟨before, rules, after, failure, hfields, hpass, hverdict, rfl⟩, ?_⟩
    intro report hreport
    rcases validateAll_of_refused hfields hpass hverdict with ⟨ended, hall, -⟩ | ⟨others, hall⟩
    · rw [hall] at hreport
      cases hreport
    · obtain rfl := Except.ok.inj (hall.symm.trans hreport)
      exact ⟨failure.entry, rfl, field_of_verdict hverdict, rfl, rfl⟩

/-- The field where a validation stops is a declared one. -/
theorem StopsAt.mem_declared {construction : Wording} {registry : Registry}
    {messages : Entries Text} {declarations : Declarations}
    (h : v.StopsAt wording dataset field error)
    (hv : ofDeclarations construction registry messages declarations = .ok v) :
    field ∈ declarations.map Prod.fst := by
  obtain ⟨fields, hcompile, rfl⟩ := ofDeclarations_eq_ok_iff.mp hv
  obtain ⟨before, rules, after, failure, hfields, -⟩ := h.refused
  rw [← fields_of_compile hcompile, show fields = before ++ (field, rules) :: after from hfields]
  simp

/-- The answer to a refusal that names a field tells it. -/
theorem tellsField_of_field (h : (v.validate wording dataset).result = .error (.input error))
    (hfield : error.field = some (.name field)) : v.TellsField wording dataset field error := by
  rintro guard handler request rfl hextract
  rw [Guard.exchange_of_refused hextract h, Guard.response_toHttpError, InputError.details, hfield]
  rfl

/-- A refusal that a validation by the built-in rules and by predicates stops with is a bad request.
It names the field where the validation stops, and the answer to a request tells the field, unless
it was raised as it is by a predicate of that field, on the value of the field. -/
theorem validate_names_field {checks : Checks} {construction : Wording} {messages : Entries Text}
    {declarations : Declarations}
    (hv : ofDeclarations construction (.standard checks) messages declarations = .ok v)
    (h : (v.validate wording dataset).result = .error (.input error)) :
    error.toHttpError.status = .ofNat 400 ∧
    ∃ field, v.StopsAt wording dataset field error ∧
      ((error.field = some (.name field) ∧ v.TellsField wording dataset field error) ∨
        (error.field ≠ some (.name field) ∧ ∃ definitions p value,
          (field, definitions) ∈ declarations ∧ .predicate p ∈ definitions ∧
            dataset.lookup field = some value ∧ p.answer value = .error (.input error))) := by
  refine ⟨rfl, ?_⟩
  obtain ⟨fields, hcompile, rfl⟩ := ofDeclarations_eq_ok_iff.mp hv
  obtain ⟨field, hstop⟩ := stopsAt_of_validate h
  refine ⟨field, hstop, ?_⟩
  by_cases hfield : error.field = some (.name field)
  · exact .inl ⟨hfield, tellsField_of_field h hfield⟩
  · obtain ⟨before, rules, after, failure, hfields, -, hverdict, rfl⟩ := hstop.refused
    rcases (refused_of_verdict hverdict).field_eq rfl with hnamed | ⟨p, value, hmem, hlookup, hown⟩
    · exact absurd hnamed hfield
    · have hentry : (field, rules) ∈ fields := by
        rw [show fields = before ++ (field, rules) :: after from hfields]
        simp
      obtain ⟨definitions, hdeclared, hdefinition⟩ :=
        exists_of_predicate_mem hcompile hentry hmem
      exact .inr ⟨hfield, definitions, p, value, hdeclared, hdefinition, hlookup, hown⟩

/-- A missing name is refused in the words of the application, with the field named. -/
theorem validate_names_field_missing :
    let wording : Wording := ⟨[Phrase.requiredFieldMissing.catalogUnit], "en"⟩
    ∃ v error,
      ofDeclarations wording (.standard (.standard 2025))
        [("name.required", "Please choose a name.")] [("name", [.text "required"])] = .ok v ∧
      (v.validate wording (.record [])).result = .error (.input error) ∧
      error.field = some (.name "name") ∧ v.TellsField wording (.record []) "name" error := by
  intro wording
  let named : FieldRule := .named ⟨"required", .null, some "Please choose a name."⟩
  let v : Validator := ⟨[("name", [named])], [("name.required", "Please choose a name.")],
    .standard (.standard 2025)⟩
  have hv : ofDeclarations wording (.standard (.standard 2025))
      [("name.required", "Please choose a name.")] [("name", [.text "required"])] = .ok v := rfl
  let missing : InputError := .ofKind (.requirement .missingRequired)
    "Required field 'name' is missing." (some (.name "name"))
  have hrefused : (v.validate wording (.record [])).result = .error (.input (missing.reworded
      (.requirement .missingRequired) "Please choose a name." (.name "name"))) := by
    decide +kernel
  obtain ⟨-, field, hstop, hnamed | ⟨-, definitions, p, -, hdeclared, hdefinition, -⟩⟩ :=
    validate_names_field hv hrefused
  · obtain rfl : field = "name" := List.mem_singleton.mp (hstop.mem_declared hv)
    exact ⟨v, _, hv, hrefused, hnamed⟩
  · obtain ⟨-, rfl⟩ := Prod.mk.inj (List.mem_singleton.mp hdeclared)
    cases List.mem_singleton.mp hdefinition

/-- A predicate that raises a refusal of its own, without a field. -/
def nameless : Predicate := ⟨[], fun _ => .error (.input (.ofKind .plain "Bad." none))⟩

/-- The refusal that the predicate of a field raises does not name the field where the validation
stops. -/
theorem not_validate_names_field :
    let wording : Wording := .bundled Phrase.bundledLanguage
    let dataset : Value := .record [("a", .number (.ofNat 1))]
    ∃ v error,
      ofDeclarations wording (.standard (.standard 2025)) [] [("a", [.predicate nameless])] =
        .ok v ∧
      (v.validate wording dataset).result = .error (.input error) ∧
      v.StopsAt wording dataset "a" error ∧ error.field ≠ some (.name "a") := by
  intro wording dataset
  let v : Validator := ⟨[("a", [.predicate nameless])], [], .standard (.standard 2025)⟩
  have hv : ofDeclarations wording (.standard (.standard 2025)) [] [("a", [.predicate nameless])] =
      .ok v := rfl
  have hrefused : (v.validate wording dataset).result =
      .error (.input (.ofKind .plain "Bad." none)) := rfl
  obtain ⟨field, hstop⟩ := stopsAt_of_validate hrefused
  obtain rfl : field = "a" := List.mem_singleton.mp (hstop.mem_declared hv)
  exact ⟨v, _, hv, hrefused, hstop, by decide⟩

end Validator

end FieldValidation
