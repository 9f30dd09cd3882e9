import FieldValidation.Proofs.Validator.Fields

/-!
# The two ways to validate agree

Both ways to validate pass the same datasets. Where the one that stops at the first failure refuses
a dataset, the other has this refusal as the first entry of its report, unless a later field ends
it; and where the one ends without a verdict, the other ends in the same way.

## Main results

* `Validator.exists_stop_of_validate`: where and why the one that stops has stopped
* `Validator.failuresOf_stopped`: what is gathered from the first field on that does not pass
* `Validator.validateAll_agrees`: the agreement
-/

namespace FieldValidation

namespace Validator

variable {v : Validator} {wording : Wording} {dataset : Value}

/-! ## Where the first way stops -/

/-- A dataset that passes does so at every field. -/
theorem passes_of_validate (h : (v.validate wording dataset).result = .ok ()) :
    ∀ entry ∈ v.fields, v.verdict wording dataset entry = .ok none := by
  have hsearch := v.firstFailureOf_firstFailure wording dataset v.fields
  rw [result_validate] at h
  generalize v.fields = fields at h hsearch ⊢
  generalize (v.firstFailureOf wording dataset fields).result = search at h hsearch
  cases hsearch with
  | passed hpass => exact hpass
  | stopped before entry after hpass hstop =>
    generalize v.verdict wording dataset entry = verdict at h hstop
    match verdict with
    | .ok none => exact absurd rfl hstop
    | .ok (some _) | .error _ => cases h

/-- What stops the validation is the verdict on the first field that does not pass: a failure that
is no verdict on the data, or a refusal. -/
theorem exists_stop_of_validate {failure : Failure}
    (h : (v.validate wording dataset).result = .error failure) :
    ∃ before entry after, v.fields = before ++ entry :: after ∧
      (∀ entry ∈ before, v.verdict wording dataset entry = .ok none) ∧
      (v.verdict wording dataset entry = .error failure ∨
        ∃ refused, v.verdict wording dataset entry = .ok (some refused) ∧
          .input refused.error = failure) := by
  have hsearch := v.firstFailureOf_firstFailure wording dataset v.fields
  rw [result_validate] at h
  generalize v.fields = fields at h hsearch ⊢
  generalize (v.firstFailureOf wording dataset fields).result = search at h hsearch
  cases hsearch with
  | passed => cases h
  | stopped before entry after hpass hstop =>
    refine ⟨before, entry, after, rfl, hpass, ?_⟩
    cases hverdict : v.verdict wording dataset entry with
    | error failure' =>
      rw [hverdict] at h
      obtain rfl : failure' = failure := Except.error.inj h
      exact .inl rfl
    | ok found =>
      cases found with
      | none => exact absurd hverdict hstop
      | some refused =>
        rw [hverdict] at h
        exact .inr ⟨refused, rfl, Except.error.inj h⟩

/-! ## What the other way makes of it -/

/-- What is gathered where the fields before `entry` pass. -/
theorem failuresOf_stopped {before : CompiledRules} (entry : Text × List FieldRule)
    (after : CompiledRules)
    (hpass : ∀ entry ∈ before, v.verdict wording dataset entry = .ok none) :
    (v.failuresOf wording dataset (before ++ entry :: after)).result =
      (do
        let found ← v.verdict wording dataset entry
        let others ← (v.failuresOf wording dataset after).result
        return found.toList ++ others) := by
  rw [failuresOf_append, failuresOf_of_pass hpass, result_failuresOf_cons]
  simp only [bind_assoc, pure_bind]
  rfl

/-- After a refusal, the report begins with it, or a later field ends the validation. -/
theorem validateAll_of_refused {before after : CompiledRules} {field : Text}
    {rules : List FieldRule} {failure : FieldFailure}
    (hfields : v.fields = before ++ (field, rules) :: after)
    (hpass : ∀ entry ∈ before, v.verdict wording dataset entry = .ok none)
    (hrefused : v.verdict wording dataset (field, rules) = .ok (some failure)) :
    (∃ ended, (v.validateAll wording dataset).result = .error ended ∧
        ended.isRefusal = false ∧
        ∃ entry ∈ after, v.verdict wording dataset entry = .error ended) ∨
      ∃ others, (v.validateAll wording dataset).result = .ok ⟨failure.entry :: others⟩ := by
  rw [result_validateAll, hfields, failuresOf_stopped _ _ hpass, hrefused]
  cases hafter : (v.failuresOf wording dataset after).result with
  | error ended =>
    left
    obtain ⟨entry, hmem, hentry⟩ := exists_of_failuresOf_eq_error hafter
    exact ⟨ended, rfl, not_isRefusal_of_verdict hentry, entry, hmem, hentry⟩
  | ok others =>
    right
    exact ⟨others.map FieldFailure.entry, rfl⟩

/-- The reported fields are among the declared ones, in their order. -/
theorem sublist_of_validateAll {report : Report}
    (h : (v.validateAll wording dataset).result = .ok report) :
    (report.errors.map FieldError.field).Sublist (v.fields.map Prod.fst) := by
  rw [result_validateAll] at h
  cases hall : (v.failuresOf wording dataset v.fields).result with
  | error failure => rw [hall] at h; cases h
  | ok failures =>
    rw [hall] at h
    cases h
    have hsub := sublist_of_failuresOf hall
    rwa [List.map_map, show FieldError.field ∘ FieldFailure.entry = FieldFailure.field from rfl]

/-- **The two ways to validate agree.** What passes the one has an empty report. A refusal that
stops the one at `field` is the first entry of the report, unless a field after it ends the
validation. What else ends the one ends the other. A report has at most one entry for each
field, in the order of the fields. -/
theorem validateAll_agrees (v : Validator) (wording : Wording) (dataset : Value) :
    ((v.validate wording dataset).result = .ok () →
      ∃ report, (v.validateAll wording dataset).result = .ok report ∧
        report.valid = true ∧ report.errors = []) ∧
    (∀ error, (v.validate wording dataset).result = .error (.input error) →
      ∃ before field rules after failure,
        v.fields = before ++ (field, rules) :: after ∧
        (∀ entry ∈ before, v.verdict wording dataset entry = .ok none) ∧
        v.verdict wording dataset (field, rules) = .ok (some failure) ∧ failure.error = error ∧
        ((∃ ended, (v.validateAll wording dataset).result = .error ended ∧
            ended.isRefusal = false ∧
            ∃ entry ∈ after, v.verdict wording dataset entry = .error ended) ∨
          ∃ report first, (v.validateAll wording dataset).result = .ok report ∧
            report.valid = false ∧ report.errors.head? = some first ∧
            first.field = field ∧ first.code = error.code ∧ first.message = error.message)) ∧
    (∀ failure, failure.isRefusal = false →
      (v.validate wording dataset).result = .error failure →
      (v.validateAll wording dataset).result = .error failure) ∧
    ∀ report, (v.validateAll wording dataset).result = .ok report →
      (report.errors.map FieldError.field).Sublist (v.fields.map Prod.fst) ∧
        ((v.fields.map Prod.fst).Nodup → (report.errors.map FieldError.field).Nodup) := by
  refine ⟨?_, ?_, ?_, ?_⟩
  · intro hpassed
    refine ⟨⟨[]⟩, ?_, rfl, rfl⟩
    rw [result_validateAll, failuresOf_of_pass (passes_of_validate hpassed)]
    rfl
  · intro error hrefused
    obtain ⟨before, ⟨field, rules⟩, after, hfields, hpass, hstop⟩ :=
      exists_stop_of_validate hrefused
    rcases hstop with hended | ⟨refused, hverdict, herror⟩
    · cases not_isRefusal_of_verdict hended
    · obtain rfl := Failure.input.inj herror
      refine ⟨before, field, rules, after, refused, hfields, hpass, hverdict, rfl, ?_⟩
      refine (validateAll_of_refused hfields hpass hverdict).imp_right ?_
      rintro ⟨others, hall⟩
      exact ⟨_, refused.entry, hall, rfl, rfl, field_of_verdict hverdict, rfl, rfl⟩
  · intro failure hkind hended
    obtain ⟨before, entry, after, hfields, hpass, hstop⟩ := exists_stop_of_validate hended
    rcases hstop with hverdict | ⟨refused, -, rfl⟩
    · rw [result_validateAll, hfields, failuresOf_stopped _ _ hpass, hverdict]
      rfl
    · cases hkind
  · intro report hreport
    have hsub := sublist_of_validateAll hreport
    exact ⟨hsub, hsub.nodup⟩

end Validator

end FieldValidation
