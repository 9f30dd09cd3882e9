import FieldValidation.Proofs.Validator.FieldCheck

/-!
# The fields one after the other

The two ways to validate go through the fields in the same order and ask for the same verdicts.
One stops at the first verdict that is not a pass, the other at the first that is a failure to
judge, and it gathers what is wrong on the way.

## Main definitions

* `FirstFailure`: how the search for the first failure ends

## Main results

* `Validator.firstFailureOf_firstFailure`: there is no other way
* `Validator.firstFailureOf_congr`, `Validator.failuresOf_congr`: only the checks count
* `Validator.failuresOf_append`: the failures of some fields, and then of others
* `Validator.exists_of_failuresOf_eq_error`: which field ended the gathering
* `Validator.sublist_of_failuresOf`: at most one failure for each field, in order
* `Validator.of_validateAll_eq_error`, `Validator.exists_verdict_of_validateAll`: what the end of a
  validation of all fields tells of the verdicts
-/

namespace FieldValidation

/-- How the search for the first failure among some fields ends: it passes them all, or it stops
with the verdict on the first that does not pass. -/
inductive FirstFailure (v : Validator) (wording : Wording) (dataset : Value) :
    CompiledRules → Except Failure (Option FieldFailure) → Prop
  | passed {fields : CompiledRules}
      (hpass : ∀ entry ∈ fields, v.verdict wording dataset entry = .ok none) :
      FirstFailure v wording dataset fields (.ok none)
  | stopped (before : CompiledRules) (entry : Text × List FieldRule) (after : CompiledRules)
      (hpass : ∀ entry ∈ before, v.verdict wording dataset entry = .ok none)
      (hstop : v.verdict wording dataset entry ≠ .ok none) :
      FirstFailure v wording dataset (before ++ entry :: after)
        (v.verdict wording dataset entry)

namespace Validator

variable {v : Validator} {wording : Wording} {dataset : Value}

/-! ## Stopping at the first failure -/

theorem result_firstFailureOf_cons (entry : Text × List FieldRule) (rest : CompiledRules) :
    (v.firstFailureOf wording dataset (entry :: rest)).result =
      match v.verdict wording dataset entry with
      | .ok none => (v.firstFailureOf wording dataset rest).result
      | stopped => stopped := by
  obtain ⟨field, rules⟩ := entry
  simp only [firstFailureOf, Traced.result_bind, verdict]
  cases hcheck : (v.checkField wording dataset field rules).result with
  | error failure => rfl
  | ok failure => cases failure <;> rfl

/-- The search for the first failure ends in one of the ways listed. -/
theorem firstFailureOf_firstFailure (v : Validator) (wording : Wording) (dataset : Value)
    (fields : CompiledRules) :
    FirstFailure v wording dataset fields (v.firstFailureOf wording dataset fields).result := by
  induction fields with
  | nil => exact .passed (by simp)
  | cons entry rest ih =>
    rw [result_firstFailureOf_cons]
    by_cases hpass : v.verdict wording dataset entry = .ok none
    · rw [hpass]
      generalize (v.firstFailureOf wording dataset rest).result = result at ih
      cases ih with
      | passed hrest => exact .passed (List.forall_mem_cons.mpr ⟨hpass, hrest⟩)
      | stopped before stop after hbefore hstop =>
        exact .stopped (entry :: before) stop after (List.forall_mem_cons.mpr ⟨hpass, hbefore⟩)
          hstop
    · have hstop := FirstFailure.stopped [] entry rest (by simp) hpass
      generalize v.verdict wording dataset entry = verdict at hpass hstop
      match verdict with
      | .ok none => exact absurd rfl hpass
      | .ok (some _) | .error _ => exact hstop

theorem result_validate (v : Validator) (wording : Wording) (dataset : Value) :
    (v.validate wording dataset).result =
      match (v.firstFailureOf wording dataset v.fields).result with
      | .ok none => .ok ()
      | .ok (some failure) => .error (.input failure.error)
      | .error failure => .error failure := by
  simp only [validate, firstFailure, Traced.result_bind]
  cases (v.firstFailureOf wording dataset v.fields).result with
  | error failure => rfl
  | ok failure => cases failure <;> rfl

/-! ## Equal checks -/

variable {v' : Validator} {dataset' : Value}

/-- The search for the first failure comes to the same where the checks do. -/
theorem firstFailureOf_congr {fields : CompiledRules}
    (h : ∀ entry ∈ fields, v.checkField wording dataset entry.1 entry.2 =
      v'.checkField wording dataset' entry.1 entry.2) :
    v.firstFailureOf wording dataset fields = v'.firstFailureOf wording dataset' fields := by
  induction fields with
  | nil => rfl
  | cons entry rest ih =>
    obtain ⟨hentry, hrest⟩ := List.forall_mem_cons.mp h
    unfold firstFailureOf
    rw [hentry, ih hrest]

/-- So does the gathering of the failures. -/
theorem failuresOf_congr {fields : CompiledRules}
    (h : ∀ entry ∈ fields, v.checkField wording dataset entry.1 entry.2 =
      v'.checkField wording dataset' entry.1 entry.2) :
    v.failuresOf wording dataset fields = v'.failuresOf wording dataset' fields := by
  induction fields with
  | nil => rfl
  | cons entry rest ih =>
    obtain ⟨hentry, hrest⟩ := List.forall_mem_cons.mp h
    unfold failuresOf
    rw [hentry, ih hrest]

/-! ## Gathering the failures -/

theorem result_failuresOf_cons (entry : Text × List FieldRule) (rest : CompiledRules) :
    (v.failuresOf wording dataset (entry :: rest)).result =
      (do
        let failure ← v.verdict wording dataset entry
        let others ← (v.failuresOf wording dataset rest).result
        return failure.toList ++ others) := by
  obtain ⟨field, rules⟩ := entry
  simp only [failuresOf, Traced.result_bind, verdict, Traced.result_pure]
  rfl

/-- What is gathered is the verdict on the first field and what is gathered from the others. -/
theorem failuresOf_cons_eq_ok {entry : Text × List FieldRule} {rest : CompiledRules}
    {failures : List FieldFailure}
    (h : (v.failuresOf wording dataset (entry :: rest)).result = .ok failures) :
    ∃ found others, v.verdict wording dataset entry = .ok found ∧
      (v.failuresOf wording dataset rest).result = .ok others ∧
      failures = found.toList ++ others := by
  rw [result_failuresOf_cons] at h
  cases hentry : v.verdict wording dataset entry with
  | error failure => rw [hentry] at h; cases h
  | ok found =>
    cases hrest : (v.failuresOf wording dataset rest).result with
    | error failure => rw [hentry, hrest] at h; cases h
    | ok others =>
      rw [hentry, hrest] at h
      exact ⟨found, others, rfl, rfl, (Except.ok.inj h).symm⟩

/-- The failures of some fields, and then of others. -/
theorem failuresOf_append (before after : CompiledRules) :
    (v.failuresOf wording dataset (before ++ after)).result =
      (do
        let some ← (v.failuresOf wording dataset before).result
        let others ← (v.failuresOf wording dataset after).result
        return some ++ others) := by
  induction before with
  | nil =>
    cases h : (v.failuresOf wording dataset after).result with
    | ok others => simpa [failuresOf, bind, Except.bind, pure, Except.pure] using h
    | error failure => simpa [failuresOf, bind, Except.bind] using h
  | cons entry rest ih =>
    simp only [List.cons_append, result_failuresOf_cons, ih, bind_assoc, pure_bind,
      List.append_assoc]

/-- Fields that pass have no failures. -/
theorem failuresOf_of_pass {fields : CompiledRules}
    (h : ∀ entry ∈ fields, v.verdict wording dataset entry = .ok none) :
    (v.failuresOf wording dataset fields).result = .ok [] := by
  induction fields with
  | nil => rfl
  | cons entry rest ih =>
    obtain ⟨hentry, hrest⟩ := List.forall_mem_cons.mp h
    rw [result_failuresOf_cons, hentry, ih hrest]
    rfl

/-- What ends the gathering is the verdict on one of the fields. -/
theorem exists_of_failuresOf_eq_error {fields : CompiledRules} {failure : Failure}
    (h : (v.failuresOf wording dataset fields).result = .error failure) :
    ∃ entry ∈ fields, v.verdict wording dataset entry = .error failure := by
  induction fields with
  | nil => cases h
  | cons entry rest ih =>
    rw [result_failuresOf_cons] at h
    cases hentry : v.verdict wording dataset entry with
    | error failure' =>
      rw [hentry] at h
      cases h
      exact ⟨entry, List.mem_cons_self, hentry⟩
    | ok found =>
      cases hrest : (v.failuresOf wording dataset rest).result with
      | error failure' =>
        rw [hentry, hrest] at h
        cases h
        obtain ⟨other, hmem, hother⟩ := ih hrest
        exact ⟨other, List.mem_cons_of_mem _ hmem, hother⟩
      | ok others => rw [hentry, hrest] at h; cases h

/-- There is at most one failure for each field, in the order of the fields. -/
theorem sublist_of_failuresOf {fields : CompiledRules} {failures : List FieldFailure}
    (h : (v.failuresOf wording dataset fields).result = .ok failures) :
    (failures.map FieldFailure.field).Sublist (fields.map Prod.fst) := by
  induction fields generalizing failures with
  | nil => cases h; exact List.Sublist.refl _
  | cons entry rest ih =>
    obtain ⟨found, others, hentry, hrest, rfl⟩ := failuresOf_cons_eq_ok h
    cases found with
    | none => exact (ih hrest).cons _
    | some failure =>
      rw [Option.toList_some, List.singleton_append, List.map_cons, List.map_cons,
        field_of_verdict hentry]
      exact (ih hrest).cons_cons _

theorem result_validateAll (v : Validator) (wording : Wording) (dataset : Value) :
    (v.validateAll wording dataset).result =
      (v.failuresOf wording dataset v.fields).result.map
        fun failures => ⟨failures.map FieldFailure.entry⟩ := by
  simp only [validateAll, failures, Traced.result_bind, Traced.result_pure]
  rfl

/-- What ends a validation of all fields is what ends the check of one. -/
theorem of_validateAll_eq_error {failure : Failure}
    (h : (v.validateAll wording dataset).result = .error failure) :
    ∃ entry ∈ v.fields, v.verdict wording dataset entry = .error failure := by
  rw [result_validateAll] at h
  cases hall : (v.failuresOf wording dataset v.fields).result with
  | ok failures => rw [hall] at h; cases h
  | error ended =>
    rw [hall] at h
    obtain rfl : ended = failure := Except.error.inj h
    exact exists_of_failuresOf_eq_error hall

/-- Where all fields are reported on, the check of each has come to a verdict. -/
theorem exists_verdict_of_validateAll {report : Report}
    (h : (v.validateAll wording dataset).result = .ok report) {entry : Text × List FieldRule}
    (hentry : entry ∈ v.fields) : ∃ found, v.verdict wording dataset entry = .ok found := by
  rw [result_validateAll] at h
  cases hall : (v.failuresOf wording dataset v.fields).result with
  | error ended => rw [hall] at h; cases h
  | ok failures =>
    clear h
    generalize v.fields = fields at hall hentry
    induction fields generalizing failures with
    | nil => cases hentry
    | cons first rest ih =>
      obtain ⟨found, others, hfirst, hrest, -⟩ := failuresOf_cons_eq_ok hall
      rcases List.mem_cons.mp hentry with rfl | hmem
      · exact ⟨found, hfirst⟩
      · exact ih others hrest hmem

end Validator

end FieldValidation
