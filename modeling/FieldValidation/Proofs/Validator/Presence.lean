import FieldValidation.Proofs.Validator.Agreement

/-!
# Where presence decides the verdict

A field that has no value rules passes where the outcome of resolving its presence is valid, and
with any other outcome it does not. So what a report says of such fields is known field by field.

## Main definitions

* `FieldFailure.IsOf`: a failure for an outcome of the resolution of presence
* `Validator.Reports`: which fields are reported, and for what outcome

## Main results

* `Requirement.outcome_eq_valid_iff`: what a field with partners asks for
* `Validator.validate_eq_ok_iff`: a dataset passes where every field does
* `Validator.verdict_of_valid`, `Validator.verdict_of_phrase`: the verdict by the outcome
* `Validator.failuresOf_of_verdicts`: the failures of fields whose verdicts are known
* `Validator.reports_or_not`: the report on them, with words and without
-/

namespace FieldValidation

namespace Requirement

variable {r : Requirement}

/-- A field that is not required but has partners is to be there if and only if none of them is. -/
theorem outcome_eq_valid_iff (hoptional : r.constraints.required = false)
    (hpartners : r.constraints.partners ≠ []) :
    r.outcome = .valid ↔ (r.fieldPresent = true ↔ ¬ r.partnerPresent = true) := by
  have hsome : r.constraints.partners.isEmpty = false := by simpa using hpartners
  unfold outcome
  cases r.fieldPresent <;> cases r.partnerPresent <;> simp [hoptional, hsome]

end Requirement

/-- The failure is that the presence of its field was resolved to an outcome. -/
structure FieldFailure.IsOf (failure : FieldFailure) (outcome : RequirementOutcome) : Prop where
  rule_eq : failure.rule = Validator.requirementRule outcome
  kind_eq : failure.error.kind = .requirement outcome
  code_eq : failure.error.code = (InputErrorKind.requirement outcome).code

namespace Validator

variable {v : Validator} {wording : Wording} {dataset : Value}

/-- A dataset passes where every field does. -/
theorem validate_eq_ok_iff :
    (v.validate wording dataset).result = .ok () ↔
      ∀ entry ∈ v.fields, v.verdict wording dataset entry = .ok none := by
  constructor
  · exact passes_of_validate
  · intro hpass
    have hsearch := v.firstFailureOf_firstFailure wording dataset v.fields
    rw [result_validate]
    generalize (v.firstFailureOf wording dataset v.fields).result = search at hsearch ⊢
    generalize v.fields = fields at hpass hsearch
    cases hsearch with
    | passed => rfl
    | stopped before entry after _ hstop => exact absurd (hpass entry (by simp)) hstop

variable {entry : Text × List FieldRule} {r : Requirement}

/-- With a valid outcome, a field without value rules passes. -/
theorem verdict_of_valid
    (hrules : Requirement.ofRules wording entry.1 entry.2 dataset.hasField = .ok r)
    (hvalid : r.outcome = .valid) (hnone : valueRules entry.2 = []) :
    v.verdict wording dataset entry = .ok none := by
  unfold verdict
  cases hlookup : dataset.lookup entry.1 with
  | none => rw [(FieldCheck.absent hrules hvalid hlookup).checkField_eq]; rfl
  | some value =>
    have hnullable : entry.2.any FieldRule.isNullable = false := by
      rw [← any_isNullable_valueRules, hnone]
      rfl
    rw [(FieldCheck.ran hrules hvalid hlookup fun _ => hnullable).checkField_eq, hnone]
    rfl

/-- With any other outcome a field does not pass. -/
theorem verdict_ne_pass
    (hrules : Requirement.ofRules wording entry.1 entry.2 dataset.hasField = .ok r)
    (hrefused : r.outcome ≠ .valid) : v.verdict wording dataset entry ≠ .ok none := by
  unfold verdict
  cases hrefusal : r.refusal? wording with
  | error failure =>
    rw [(FieldCheck.wordless hrules hrefusal).checkField_eq]
    exact nofun
  | ok refusal =>
    cases refusal with
    | none => exact absurd (Requirement.refusal?_eq_none_iff.mp hrefusal) hrefused
    | some error =>
      rw [(FieldCheck.refused hrules hrefusal).checkField_eq]
      exact nofun

/-- A field whose presence is refused fails with the outcome, whatever text is given for it. -/
theorem verdict_of_refused {error : InputError}
    (hrules : Requirement.ofRules wording entry.1 entry.2 dataset.hasField = .ok r)
    (hrefusal : r.refusal? wording = .ok (some error)) :
    ∃ failure, v.verdict wording dataset entry = .ok (some failure) ∧ failure.field = entry.1 ∧
      failure.IsOf r.outcome := by
  have hverdict : v.verdict wording dataset entry =
      .ok (some (requirementFailure v.messages entry.1 r.outcome error)) := by
    unfold verdict
    rw [(FieldCheck.refused hrules hrefusal).checkField_eq]
    rfl
  obtain ⟨text, rfl⟩ := Requirement.refusal?_eq_some hrefusal
  refine ⟨_, hverdict, field_of_verdict hverdict, ?_⟩
  unfold requirementFailure
  dsimp only
  split
  · exact ⟨rfl, rfl, by simp only [InputError.reworded, InputError.ofKind]⟩
  · exact ⟨rfl, rfl, by simp only [InputError.ofKind]⟩

/-- A field whose presence is refused without words for it ends the check. -/
theorem verdict_of_wordless {failure : Failure}
    (hrules : Requirement.ofRules wording entry.1 entry.2 dataset.hasField = .ok r)
    (hrefusal : r.refusal? wording = .error failure) :
    v.verdict wording dataset entry = .error failure := by
  unfold verdict
  rw [(FieldCheck.wordless hrules hrefusal).checkField_eq]
  rfl

/-- The verdict on a field with an outcome that is not valid: the field fails with it where the
catalog has a text for the outcome, and otherwise the catalog has failed. -/
theorem verdict_of_phrase {phrase : Phrase}
    (hrules : Requirement.ofRules wording entry.1 entry.2 dataset.hasField = .ok r)
    (hphrase : r.outcome.phrase? = some phrase) :
    (wording.Tells phrase phrase.arity →
      ∃ failure, v.verdict wording dataset entry = .ok (some failure) ∧ failure.field = entry.1 ∧
        failure.IsOf r.outcome) ∧
    (¬ wording.Tells phrase phrase.arity →
      ∃ fault, v.verdict wording dataset entry = .error (.catalog fault)) := by
  constructor
  · intro htells
    obtain ⟨text, hrefusal⟩ := Requirement.refusal?_of_tells hphrase htells
    exact verdict_of_refused hrules hrefusal
  · intro htells
    obtain ⟨fault, hrefusal⟩ := Requirement.refusal?_of_not_tells hphrase htells
    exact ⟨fault, verdict_of_wordless hrules hrefusal⟩

/-- The failures of fields whose verdicts are known: those that do not pass, one each. -/
theorem failuresOf_of_verdicts {fields : CompiledRules} {fails : Text → Bool}
    {Known : FieldFailure → Prop}
    (hpass : ∀ entry ∈ fields, fails entry.1 = false → v.verdict wording dataset entry = .ok none)
    (hfail : ∀ entry ∈ fields, fails entry.1 = true →
      ∃ failure, v.verdict wording dataset entry = .ok (some failure) ∧
        failure.field = entry.1 ∧ Known failure) :
    ∃ failures, (v.failuresOf wording dataset fields).result = .ok failures ∧
      failures.map FieldFailure.field = (fields.map Prod.fst).filter fails ∧
      ∀ failure ∈ failures, Known failure := by
  induction fields with
  | nil => exact ⟨[], rfl, rfl, by simp⟩
  | cons entry rest ih =>
    obtain ⟨hentry, hrest⟩ := List.forall_mem_cons.mp hpass
    obtain ⟨hentry', hrest'⟩ := List.forall_mem_cons.mp hfail
    obtain ⟨others, hothers, hfields, hknown⟩ := ih hrest hrest'
    rw [result_failuresOf_cons, hothers, List.map_cons]
    cases hfails : fails entry.1 with
    | false =>
      rw [hentry hfails, List.filter_cons_of_neg (by simp [hfails])]
      exact ⟨others, rfl, hfields, hknown⟩
    | true =>
      obtain ⟨failure, hverdict, hfield, hfailure⟩ := hentry' hfails
      rw [hverdict, List.filter_cons_of_pos hfails]
      refine ⟨failure :: others, rfl, ?_, List.forall_mem_cons.mpr ⟨hfailure, hknown⟩⟩
      rw [List.map_cons, hfield, hfields]

/-- The report has just these fields, all for one outcome of the resolution of presence. -/
def Reports (v : Validator) (wording : Wording) (dataset : Value) (outcome : RequirementOutcome)
    (fields : List Text) : Prop :=
  ∃ failures, (v.failures wording dataset).result = .ok failures ∧
    (v.validateAll wording dataset).result = .ok ⟨failures.map FieldFailure.entry⟩ ∧
    failures.map FieldFailure.field = fields ∧ ∀ failure ∈ failures, failure.IsOf outcome

theorem reports_of_verdicts {outcome : RequirementOutcome} {fails : Text → Bool}
    (hpass : ∀ entry ∈ v.fields, fails entry.1 = false →
      v.verdict wording dataset entry = .ok none)
    (hfail : ∀ entry ∈ v.fields, fails entry.1 = true →
      ∃ failure, v.verdict wording dataset entry = .ok (some failure) ∧
        failure.field = entry.1 ∧ failure.IsOf outcome) :
    v.Reports wording dataset outcome ((v.fields.map Prod.fst).filter fails) := by
  obtain ⟨failures, hfailures, hfields, hknown⟩ := failuresOf_of_verdicts hpass hfail
  refine ⟨failures, hfailures, ?_, hfields, hknown⟩
  rw [result_validateAll, hfailures]
  rfl

/-- Where every field passes or ends with the fault of the catalog, and one does, there is no
report. -/
theorem validateAll_of_wordless (fails : Text → Bool)
    (hpass : ∀ entry ∈ v.fields, fails entry.1 = false →
      v.verdict wording dataset entry = .ok none)
    (hended : ∀ entry ∈ v.fields, fails entry.1 = true →
      ∃ fault, v.verdict wording dataset entry = .error (.catalog fault))
    (hsome : ∃ entry ∈ v.fields, fails entry.1 = true) :
    ∃ fault, (v.validateAll wording dataset).result = .error (.catalog fault) := by
  cases hresult : (v.validateAll wording dataset).result with
  | ok report =>
    obtain ⟨entry, hentry, hfails⟩ := hsome
    obtain ⟨fault, hverdict⟩ := hended entry hentry hfails
    obtain ⟨found, hfound⟩ := exists_verdict_of_validateAll hresult hentry
    rw [hverdict] at hfound
    cases hfound
  | error failure =>
    obtain ⟨entry, hentry, hverdict⟩ := of_validateAll_eq_error hresult
    cases hfails : fails entry.1 with
    | false =>
      rw [hpass entry hentry hfails] at hverdict
      cases hverdict
    | true =>
      obtain ⟨fault, hfault⟩ := hended entry hentry hfails
      obtain rfl := Except.error.inj (hfault.symm.trans hverdict)
      exact ⟨fault, rfl⟩

/-- Where some fields fail with one outcome and the others pass, these are reported, or there is no
report for want of the words. -/
theorem reports_or_not {outcome : RequirementOutcome} {phrase : Phrase} {count : Nat}
    (fails : Text → Bool)
    (hpass : ∀ entry ∈ v.fields, fails entry.1 = false →
      v.verdict wording dataset entry = .ok none)
    (hfail : ∀ entry ∈ v.fields, fails entry.1 = true →
      (wording.Tells phrase count →
        ∃ failure, v.verdict wording dataset entry = .ok (some failure) ∧
          failure.field = entry.1 ∧ failure.IsOf outcome) ∧
      (¬ wording.Tells phrase count →
        ∃ fault, v.verdict wording dataset entry = .error (.catalog fault)))
    (hsome : ∃ entry ∈ v.fields, fails entry.1 = true) :
    (wording.Tells phrase count →
      v.Reports wording dataset outcome ((v.fields.map Prod.fst).filter fails)) ∧
    (¬ wording.Tells phrase count →
      ∃ fault, (v.validateAll wording dataset).result = .error (.catalog fault)) := by
  constructor
  · intro htells
    exact reports_of_verdicts hpass fun entry hentry hfails => (hfail entry hentry hfails).1 htells
  · intro htells
    exact validateAll_of_wordless fails hpass
      (fun entry hentry hfails => (hfail entry hentry hfails).2 htells) hsome

end Validator

end FieldValidation
