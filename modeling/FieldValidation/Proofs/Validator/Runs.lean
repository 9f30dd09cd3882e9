import FieldValidation.Proofs.Validator.Fields

/-!
# Which rules are run, and on what

A value rule is run only for a field that is present and whose presence is as required, and it is
given the value of that field; a null that may be there is given to no rule. So the validator never
looks up a field in vain: that a field is missing is only ever the complaint of a rule.

## Main definitions

* `Ran.Warranted`: a run that the dataset gives occasion for
* `Traced.EndedByRule`: a validation that the rule run last has ended

## Main results

* `Validator.warranted_of_checkField`: the check of a field runs its rules with occasion only
* `Validator.runs_warranted`: so do both ways to validate, and neither looks up a field in vain
-/

namespace FieldValidation

/-- The run of a value rule of a field that the dataset gives occasion for. -/
structure Ran.Warranted (wording : Wording) (dataset : Value) (field : Text)
    (rules : List FieldRule) (run : Ran) : Prop where
  /-- The rule is a value rule of the field. -/
  field_eq : run.field = field
  rule_mem : run.rule ∈ rules
  not_isRequirement : run.rule.isRequirement = false
  not_isNullable : run.rule.isNullable = false
  /-- The field is there, and the rule is given its value. -/
  present : dataset.hasField field = true
  given : Validator.fetch wording dataset field = .ok run.value
  /-- The presence of the field is as required. -/
  resolved : ∃ r, Requirement.ofRules wording field rules dataset.hasField = .ok r ∧
    r.outcome = .valid
  /-- No null is given to a rule where null may pass. -/
  not_null : run.value = .null → rules.any FieldRule.isNullable = false

/-- The validation ended with a failure, and the failure is the answer of the rule run last. -/
def Traced.EndedByRule {α : Type} (registry : Registry) (wording : Wording) (t : Traced α)
    (failure : Failure) : Prop :=
  ∃ run, t.ran.getLast? = some run ∧ run.answer registry wording = .error failure

/-- That a field is missing is only ever the answer of the rule run last. -/
def Traced.LooksUpSafely {α : Type} (registry : Registry) (wording : Wording) (t : Traced α) :
    Prop :=
  ∀ id message, t.result = .error (.fieldNotFound id message) →
    t.EndedByRule registry wording (.fieldNotFound id message)

namespace Traced

variable {α β : Type} {registry : Registry} {wording : Wording}

theorem LooksUpSafely.of_ok {t : Traced α} {a : α} (h : t.result = .ok a) :
    t.LooksUpSafely registry wording := by
  intro id message herror
  rw [h] at herror
  cases herror

theorem LooksUpSafely.bind {first : Traced α} {next : α → Traced β}
    (hfirst : first.LooksUpSafely registry wording)
    (hnext : ∀ a, first.result = .ok a → (next a).LooksUpSafely registry wording) :
    (first >>= next).LooksUpSafely registry wording := by
  intro id message herror
  cases h : first.result with
  | error failure =>
    rw [bind_of_error h] at herror ⊢
    obtain rfl := Except.error.inj herror
    obtain ⟨run, hlast, hanswer⟩ := hfirst id message h
    exact ⟨run, hlast, hanswer⟩
  | ok a =>
    rw [bind_of_ok h] at herror ⊢
    obtain ⟨run, hlast, hanswer⟩ := hnext a h id message herror
    exact ⟨run, by simp [List.getLast?_append, hlast], hanswer⟩

end Traced

namespace Validator

variable {v : Validator} {wording : Wording} {dataset : Value}

/-! ## The check of one field -/

/-- Each rule run for a field is a value rule of it, given the value. -/
theorem mem_of_mem_ran_runRules {registry : Registry} {field : Text} {value : Value}
    {rules : List FieldRule} {run : Ran}
    (h : run ∈ (runRules registry wording field value rules).ran) :
    run.field = field ∧ run.value = value ∧ run.rule ∈ rules ∧ run.rule.isNullable = false := by
  have hrun := runRules_rulesRun registry wording field value rules
  generalize runRules registry wording field value rules = check at h hrun
  have hmem : ∀ rule ∈ rules.filter (!·.isNullable), rule ∈ rules ∧ rule.isNullable = false := by
    simp
  generalize rules.filter (!·.isNullable) = runs at hrun hmem
  cases hrun with
  | passed =>
    obtain ⟨rule, hrule, rfl⟩ := List.mem_map.mp h
    exact ⟨rfl, rfl, hmem rule hrule⟩
  | failed before rule' later =>
    obtain ⟨rule, hrule, rfl⟩ := List.mem_map.mp h
    refine ⟨rfl, rfl, hmem rule ?_⟩
    rcases List.mem_append.mp hrule with hbefore | hlast
    · exact List.mem_append_left _ hbefore
    · rw [List.mem_singleton.mp hlast]
      exact List.mem_append_right _ List.mem_cons_self

/-- The check of a field runs its rules with occasion only. -/
theorem warranted_of_checkField {field : Text} {rules : List FieldRule} {run : Ran}
    (h : run ∈ (v.checkField wording dataset field rules).ran) :
    run.Warranted wording dataset field rules := by
  have hcheck := v.checkField_fieldCheck wording dataset field rules
  generalize v.checkField wording dataset field rules = check at h hcheck
  cases hcheck with
  | defective | wordless | refused | absent | null => cases h
  | @ran r value hrules hvalid hlookup hnull =>
    obtain ⟨hfield, hvalue, hmem, hnotnull⟩ := mem_of_mem_ran_runRules h
    simp only [valueRules, List.mem_filter, Bool.not_eq_true'] at hmem
    exact
      { field_eq := hfield
        rule_mem := hmem.1
        not_isRequirement := hmem.2
        not_isNullable := hnotnull
        present := by simp [Value.hasField, hlookup]
        given := by rw [fetch_of_lookup hlookup, hvalue]
        resolved := ⟨r, hrules, hvalid⟩
        not_null := hvalue ▸ hnull }

theorem looksUpSafely_runRules (registry : Registry) (wording : Wording) (field : Text)
    (value : Value) (rules : List FieldRule) :
    (runRules registry wording field value rules).LooksUpSafely registry wording := by
  have hrun := runRules_rulesRun registry wording field value rules
  generalize runRules registry wording field value rules = check at hrun ⊢
  generalize rules.filter (!·.isNullable) = runs at hrun
  cases hrun with
  | passed => exact .of_ok rfl
  | @failed before rule later failure hpass hfail =>
    intro id message herror
    obtain rfl : failure = .fieldNotFound id message := by
      cases failure <;> first | exact Except.error.inj herror | cases herror
    exact ⟨⟨field, rule, value⟩, by simp, hfail⟩

/-- The check of a field looks up a field that is there, or none. -/
theorem looksUpSafely_checkField (v : Validator) (wording : Wording) (dataset : Value)
    (field : Text) (rules : List FieldRule) :
    (v.checkField wording dataset field rules).LooksUpSafely v.registry wording := by
  have hcheck := v.checkField_fieldCheck wording dataset field rules
  generalize v.checkField wording dataset field rules = check at hcheck ⊢
  cases hcheck with
  | defective hrules =>
    intro id message herror
    obtain rfl := Except.error.inj herror
    cases Requirement.isDefect_of_ofRules hrules
  | wordless _ hrefusal =>
    intro id message herror
    obtain rfl := Except.error.inj herror
    cases Requirement.isDefect_of_refusal? hrefusal
  | refused | absent | null => exact .of_ok rfl
  | ran => exact looksUpSafely_runRules _ _ _ _ _

/-- Where the presence of a field is as required and its value rules are not skipped, the look-up
of its value succeeds. -/
theorem exists_fetch {field : Text} {rules : List FieldRule} {r : Requirement}
    (hrules : Requirement.ofRules wording field rules dataset.hasField = .ok r)
    (hrefusal : r.refusal? wording = .ok none) (hskip : r.skipsValueRules = false) :
    ∃ value, fetch wording dataset field = .ok value := by
  have hvalid := Requirement.refusal?_eq_none_iff.mp hrefusal
  obtain ⟨constraints, -, rfl⟩ := Requirement.ofRules_eq_ok hrules
  rw [Requirement.skipsValueRules_of_valid hvalid] at hskip
  have hpresent : dataset.hasField field = true := by
    simpa [Requirement.ofConstraints] using hskip
  obtain ⟨value, hlookup⟩ := Option.isSome_iff_exists.mp hpresent
  exact ⟨value, fetch_of_lookup hlookup⟩

/-! ## The fields one after the other -/

/-- What is run on the way to the first failure is run by the check of one of the fields. -/
theorem exists_of_mem_ran_firstFailureOf {fields : CompiledRules} {run : Ran}
    (h : run ∈ (v.firstFailureOf wording dataset fields).ran) :
    ∃ entry ∈ fields, run ∈ (v.checkField wording dataset entry.1 entry.2).ran := by
  induction fields with
  | nil => cases h
  | cons entry rest ih =>
    rcases Traced.mem_ran_bind h with hfirst | ⟨found, -, hnext⟩
    · exact ⟨entry, List.mem_cons_self, hfirst⟩
    · cases found with
      | some failure => cases hnext
      | none =>
        obtain ⟨other, hmem, hrun⟩ := ih hnext
        exact ⟨other, List.mem_cons_of_mem _ hmem, hrun⟩

/-- What is run to gather the failures is run by the check of one of the fields. -/
theorem exists_of_mem_ran_failuresOf {fields : CompiledRules} {run : Ran}
    (h : run ∈ (v.failuresOf wording dataset fields).ran) :
    ∃ entry ∈ fields, run ∈ (v.checkField wording dataset entry.1 entry.2).ran := by
  induction fields with
  | nil => cases h
  | cons entry rest ih =>
    rcases Traced.mem_ran_bind h with hfirst | ⟨found, -, hnext⟩
    · exact ⟨entry, List.mem_cons_self, hfirst⟩
    · rcases Traced.mem_ran_bind hnext with hothers | ⟨others, -, hnone⟩
      · obtain ⟨other, hmem, hrun⟩ := ih hothers
        exact ⟨other, List.mem_cons_of_mem _ hmem, hrun⟩
      · cases hnone

theorem looksUpSafely_firstFailureOf (v : Validator) (wording : Wording) (dataset : Value)
    (fields : CompiledRules) :
    (v.firstFailureOf wording dataset fields).LooksUpSafely v.registry wording := by
  induction fields with
  | nil => exact .of_ok rfl
  | cons entry rest ih =>
    refine .bind (v.looksUpSafely_checkField wording dataset entry.1 entry.2) fun found _ => ?_
    cases found with
    | some failure => exact .of_ok rfl
    | none => exact ih

theorem looksUpSafely_failuresOf (v : Validator) (wording : Wording) (dataset : Value)
    (fields : CompiledRules) :
    (v.failuresOf wording dataset fields).LooksUpSafely v.registry wording := by
  induction fields with
  | nil => exact .of_ok rfl
  | cons entry rest ih =>
    refine .bind (v.looksUpSafely_checkField wording dataset entry.1 entry.2) fun found _ => ?_
    exact .bind ih fun others _ => .of_ok rfl

theorem ran_validate (v : Validator) (wording : Wording) (dataset : Value) :
    (v.validate wording dataset).ran = (v.firstFailureOf wording dataset v.fields).ran := by
  unfold validate firstFailure
  cases h : (v.firstFailureOf wording dataset v.fields).result with
  | error failure => rw [Traced.bind_of_error h]
  | ok found =>
    rw [Traced.bind_of_ok h]
    cases found <;> exact List.append_nil _

theorem ran_validateAll (v : Validator) (wording : Wording) (dataset : Value) :
    (v.validateAll wording dataset).ran = (v.failuresOf wording dataset v.fields).ran := by
  unfold validateAll failures
  cases h : (v.failuresOf wording dataset v.fields).result with
  | error failure => rw [Traced.bind_of_error h]
  | ok found =>
    rw [Traced.bind_of_ok h]
    exact List.append_nil _

theorem looksUpSafely_validate (v : Validator) (wording : Wording) (dataset : Value) :
    (v.validate wording dataset).LooksUpSafely v.registry wording := by
  refine .bind (v.looksUpSafely_firstFailureOf wording dataset v.fields) fun found _ => ?_
  cases found with
  | none => exact .of_ok rfl
  | some failure => intro id message herror; cases herror

theorem looksUpSafely_validateAll (v : Validator) (wording : Wording) (dataset : Value) :
    (v.validateAll wording dataset).LooksUpSafely v.registry wording :=
  .bind (v.looksUpSafely_failuresOf wording dataset v.fields) fun _ _ => .of_ok rfl

/-! ## Both ways to validate -/

/-- **The validator looks up no field in vain, and runs its rules with occasion only.** Where it
gets to look up the value of a field, the field is there; a missing field is only ever the
complaint of the rule run last, which ends the validation. Each rule that is run belongs to a
declared field that is present as required, and is given the value of that field, which is not
a null that may pass. -/
theorem runs_warranted (v : Validator) (wording : Wording) (dataset : Value) :
    (∀ field rules r, (field, rules) ∈ v.fields →
      Requirement.ofRules wording field rules dataset.hasField = .ok r →
      r.refusal? wording = .ok none → r.skipsValueRules = false →
      ∃ value, fetch wording dataset field = .ok value) ∧
    (v.validate wording dataset).LooksUpSafely v.registry wording ∧
    (v.validateAll wording dataset).LooksUpSafely v.registry wording ∧
    (∀ run ∈ (v.validate wording dataset).ran,
      ∃ entry ∈ v.fields, run.Warranted wording dataset entry.1 entry.2) ∧
    (∀ run ∈ (v.validateAll wording dataset).ran,
      ∃ entry ∈ v.fields, run.Warranted wording dataset entry.1 entry.2) := by
  refine ⟨?_, v.looksUpSafely_validate wording dataset, v.looksUpSafely_validateAll wording dataset,
    ?_, ?_⟩
  · intro field rules r _ hrules hrefusal hskip
    exact exists_fetch hrules hrefusal hskip
  · intro run hrun
    rw [ran_validate] at hrun
    obtain ⟨entry, hmem, hcheck⟩ := exists_of_mem_ran_firstFailureOf hrun
    exact ⟨entry, hmem, warranted_of_checkField hcheck⟩
  · intro run hrun
    rw [ran_validateAll] at hrun
    obtain ⟨entry, hmem, hcheck⟩ := exists_of_mem_ran_failuresOf hrun
    exact ⟨entry, hmem, warranted_of_checkField hcheck⟩

end Validator

end FieldValidation
