import FieldValidation.Proofs.Requirement.Resolution
import FieldValidation.Validator.Basic

/-!
# The check of one field

The check of a field ends in one of a few ways: its rules have a defect, its presence is refused,
it is absent and need not be there, its value is null and may be, or its value rules are run. The
value rules in turn either all pass, or are run up to the first that fails. Everything that holds
of a check is read off these two lists of cases.

## Main definitions

* `RulesRun`: how the run of the value rules ends
* `FieldCheck`: how the check of a field ends
* `Validator.verdict`: the result of the check of a field

## Main results

* `RulesRun.runRules_eq`, `FieldCheck.checkField_eq`: each way to end is the one it says
* `Validator.runRules_rulesRun`, `Validator.checkField_fieldCheck`: there is no other way
* `Validator.runRules_cases`: the value rules pass, or come to the report on one that failed
* `Validator.of_verdict_eq_error`: what ends the check of a field
* `Validator.not_isRefusal_of_verdict`: a check never fails with a refusal of the data
* `Validator.field_of_verdict`: what a check finds wrong names the field
-/

namespace FieldValidation

/-! ## The rule that lets null pass -/

namespace FieldRule

/-- The rule that lets null pass is not about presence. -/
theorem isRequirement_of_isNullable {rule : FieldRule} (h : rule.isNullable = true) :
    rule.isRequirement = false := by
  have hname : rule.name = nullableName := by simpa [isNullable] using h
  unfold isRequirement isRequired namesPartner
  rw [hname]
  decide

end FieldRule

theorem any_isNullable_valueRules (rules : List FieldRule) :
    (valueRules rules).any FieldRule.isNullable = rules.any FieldRule.isNullable := by
  rw [valueRules, List.any_filter]
  refine List.any_congr rfl fun rule => ?_
  cases h : rule.isNullable with
  | false => simp
  | true => simp [FieldRule.isRequirement_of_isNullable h]

/-! ## Running the value rules -/

/-- The answer of the rule that was run. -/
def Ran.answer (registry : Registry) (wording : Wording) (run : Ran) : Except Failure Unit :=
  run.rule.validate registry wording run.field run.value

/-- What a field comes to by a rule that failed: a refusal is reported under the rule, any other
failure ends the validation. -/
def FieldRule.report (field : Text) (rule : FieldRule) :
    Failure → Except Failure (Option FieldFailure)
  | .input error => .ok (some ⟨field, rule.label, error⟩)
  | failure => .error failure

section Report

variable {field : Text} {rule : FieldRule} {failure : Failure}

theorem FieldRule.of_report_eq_error {ended : Failure}
    (h : rule.report field failure = .error ended) : failure = ended ∧ ended.isRefusal = false := by
  cases failure with
  | input error => cases h
  | _ =>
    obtain rfl := Except.error.inj h
    exact ⟨rfl, rfl⟩

theorem FieldRule.of_report_eq_some {found : FieldFailure}
    (h : rule.report field failure = .ok (some found)) :
    failure = .input found.error ∧ found = ⟨field, rule.label, found.error⟩ := by
  cases failure with
  | input error =>
    obtain rfl := Option.some.inj (Except.ok.inj h)
    exact ⟨rfl, rfl⟩
  | _ => cases h

end Report

/-- How the run of the value rules of a field ends, by the rules that are run. -/
inductive RulesRun (registry : Registry) (wording : Wording) (field : Text) (value : Value) :
    List FieldRule → Traced (Option FieldFailure) → Prop
  | passed {rules : List FieldRule}
      (hpass : ∀ rule ∈ rules, rule.validate registry wording field value = .ok ()) :
      RulesRun registry wording field value rules ⟨.ok none, rules.map (⟨field, ·, value⟩)⟩
  | failed (before : List FieldRule) (rule : FieldRule) (later : List FieldRule)
      {failure : Failure}
      (hpass : ∀ rule ∈ before, rule.validate registry wording field value = .ok ())
      (hfail : rule.validate registry wording field value = .error failure) :
      RulesRun registry wording field value (before ++ rule :: later)
        ⟨rule.report field failure, (before ++ [rule]).map (⟨field, ·, value⟩)⟩

/-- A rule that passes is run before the others. -/
theorem RulesRun.cons {registry : Registry} {wording : Wording} {field : Text} {value : Value}
    {rule : FieldRule} {rules : List FieldRule} {others : Traced (Option FieldFailure)}
    (hpass : rule.validate registry wording field value = .ok ())
    (h : RulesRun registry wording field value rules others) :
    RulesRun registry wording field value (rule :: rules)
      ⟨others.result, ⟨field, rule, value⟩ :: others.ran⟩ := by
  cases h with
  | passed hrest =>
    exact .passed fun r hr => (List.mem_cons.mp hr).elim (fun he => he ▸ hpass) (hrest r)
  | failed before rule' later hrest hfail =>
    exact .failed (rule :: before) rule' later
      (fun r hr => (List.mem_cons.mp hr).elim (fun he => he ▸ hpass) (hrest r)) hfail

variable {registry : Registry} {wording : Wording} {field : Text} {value : Value}

theorem runRules_of_pass {rules : List FieldRule}
    (hpass : ∀ rule ∈ rules.filter (!·.isNullable),
      rule.validate registry wording field value = .ok ()) :
    Validator.runRules registry wording field value rules =
      ⟨.ok none, (rules.filter (!·.isNullable)).map (⟨field, ·, value⟩)⟩ := by
  induction rules with
  | nil => rfl
  | cons rule rest ih =>
    cases hnull : rule.isNullable with
    | true =>
      rw [List.filter_cons_of_neg (by simp [hnull])] at hpass ⊢
      simpa [Validator.runRules, hnull] using ih hpass
    | false =>
      rw [List.filter_cons_of_pos (by simp [hnull])] at hpass ⊢
      obtain ⟨hrule, hrest⟩ := List.forall_mem_cons.mp hpass
      simp [Validator.runRules, hnull, hrule, ih hrest]

theorem runRules_of_fail {rules before later : List FieldRule} {rule : FieldRule}
    {failure : Failure} (hruns : rules.filter (!·.isNullable) = before ++ rule :: later)
    (hpass : ∀ rule ∈ before, rule.validate registry wording field value = .ok ())
    (hfail : rule.validate registry wording field value = .error failure) :
    Validator.runRules registry wording field value rules =
      ⟨rule.report field failure, (before ++ [rule]).map (⟨field, ·, value⟩)⟩ := by
  induction rules generalizing before with
  | nil => simp at hruns
  | cons first rest ih =>
    cases hnull : first.isNullable with
    | true =>
      rw [List.filter_cons_of_neg (by simp [hnull])] at hruns
      simpa [Validator.runRules, hnull] using ih hruns hpass
    | false =>
      rw [List.filter_cons_of_pos (by simp [hnull])] at hruns
      cases before with
      | nil =>
        obtain ⟨rfl, -⟩ := List.cons.inj hruns
        cases failure <;> simp [Validator.runRules, hnull, hfail, FieldRule.report]
      | cons passed before =>
        obtain ⟨rfl, hrest⟩ := List.cons.inj hruns
        obtain ⟨hfirst, hbefore⟩ := List.forall_mem_cons.mp hpass
        simp [Validator.runRules, hnull, hfirst, ih hrest hbefore]

/-- How the run ends is what it comes to. The rule that lets null pass is left out. -/
theorem RulesRun.runRules_eq {rules : List FieldRule} {run : Traced (Option FieldFailure)}
    (h : RulesRun registry wording field value (rules.filter (!·.isNullable)) run) :
    Validator.runRules registry wording field value rules = run := by
  generalize hruns : rules.filter (!·.isNullable) = runs at h
  cases h with
  | passed hpass =>
    subst hruns
    exact runRules_of_pass hpass
  | failed before rule later hpass hfail => exact runRules_of_fail hruns hpass hfail

/-- Either all rules pass, or there is a first that fails. -/
theorem exists_rulesRun (registry : Registry) (wording : Wording) (field : Text) (value : Value)
    (rules : List FieldRule) : ∃ run, RulesRun registry wording field value rules run := by
  induction rules with
  | nil => exact ⟨_, .passed (by simp)⟩
  | cons rule rest ih =>
    obtain ⟨others, hothers⟩ := ih
    cases hrun : rule.validate registry wording field value with
    | ok _ => exact ⟨_, hothers.cons hrun⟩
    | error failure => exact ⟨_, .failed [] rule rest (by simp) hrun⟩

/-- The value rules are run in order, up to the first that fails. -/
theorem Validator.runRules_rulesRun (registry : Registry) (wording : Wording) (field : Text)
    (value : Value) (rules : List FieldRule) :
    RulesRun registry wording field value (rules.filter (!·.isNullable))
      (runRules registry wording field value rules) := by
  obtain ⟨run, hrun⟩ :=
    exists_rulesRun registry wording field value (rules.filter (!·.isNullable))
  rwa [hrun.runRules_eq]

/-- Either all value rules pass, or they come to the report on one that failed. -/
theorem Validator.runRules_cases (rules : List FieldRule) :
    (runRules registry wording field value rules).result = .ok none ∨
      ∃ rule ∈ rules, ∃ failure, rule.validate registry wording field value = .error failure ∧
        (runRules registry wording field value rules).result = rule.report field failure := by
  have hrun := runRules_rulesRun registry wording field value rules
  generalize runRules registry wording field value rules = run at hrun ⊢
  generalize hruns : rules.filter (!·.isNullable) = runs at hrun
  cases hrun with
  | passed => exact .inl rfl
  | failed before rule later hpass hfail =>
    have hmem : rule ∈ rules.filter (!·.isNullable) := by
      rw [hruns]
      simp
    exact .inr ⟨rule, (List.mem_filter.mp hmem).1, _, hfail, rfl⟩

/-! ## The check as a whole -/

/-- How the check of a field ends. -/
inductive FieldCheck (v : Validator) (wording : Wording) (dataset : Value) (field : Text)
    (rules : List FieldRule) : Traced (Option FieldFailure) → Prop
  /-- The rules have a defect. -/
  | defective {failure : Failure}
      (hrules : Requirement.ofRules wording field rules dataset.hasField = .error failure) :
      FieldCheck v wording dataset field rules (.ofExcept (.error failure))
  /-- The presence of the field is to be refused, and there are no words for it. -/
  | wordless {r : Requirement} {failure : Failure}
      (hrules : Requirement.ofRules wording field rules dataset.hasField = .ok r)
      (hrefusal : r.refusal? wording = .error failure) :
      FieldCheck v wording dataset field rules (.ofExcept (.error failure))
  /-- The presence of the field is refused. -/
  | refused {r : Requirement} {error : InputError}
      (hrules : Requirement.ofRules wording field rules dataset.hasField = .ok r)
      (hrefusal : r.refusal? wording = .ok (some error)) :
      FieldCheck v wording dataset field rules
        (.ofExcept (.ok (some (Validator.requirementFailure v.messages field r.outcome error))))
  /-- The field is absent, and need not be there. -/
  | absent {r : Requirement}
      (hrules : Requirement.ofRules wording field rules dataset.hasField = .ok r)
      (hvalid : r.outcome = .valid) (hlookup : dataset.lookup field = none) :
      FieldCheck v wording dataset field rules (.ofExcept (.ok none))
  /-- The value is null, and may be. -/
  | null {r : Requirement}
      (hrules : Requirement.ofRules wording field rules dataset.hasField = .ok r)
      (hvalid : r.outcome = .valid) (hlookup : dataset.lookup field = some .null)
      (hnull : rules.any FieldRule.isNullable = true) :
      FieldCheck v wording dataset field rules (.ofExcept (.ok none))
  /-- The value rules are run on the value. -/
  | ran {r : Requirement} {value : Value}
      (hrules : Requirement.ofRules wording field rules dataset.hasField = .ok r)
      (hvalid : r.outcome = .valid) (hlookup : dataset.lookup field = some value)
      (hnull : value = .null → rules.any FieldRule.isNullable = false) :
      FieldCheck v wording dataset field rules
        (Validator.runRules v.registry wording field value (valueRules rules))

namespace Validator

variable {dataset : Value} {rules : List FieldRule}

/-- A field that is there is fetched. -/
theorem fetch_of_lookup {id : FieldId} {value : Value} (h : dataset.lookup id = some value) :
    fetch wording dataset id = .ok value := by
  simp [fetch, h]

theorem fieldPresent_eq {id : FieldId} {r : Requirement}
    (hrules : Requirement.ofRules wording id rules dataset.hasField = .ok r) :
    r.fieldPresent = (dataset.lookup id).isSome := by
  obtain ⟨constraints, -, rfl⟩ := Requirement.ofRules_eq_ok hrules
  rfl

end Validator

variable {v : Validator} {dataset : Value} {rules : List FieldRule}

/-- How the check of a field ends is what it comes to. -/
theorem FieldCheck.checkField_eq {check : Traced (Option FieldFailure)}
    (h : FieldCheck v wording dataset field rules check) :
    v.checkField wording dataset field rules = check := by
  unfold Validator.checkField
  cases h with
  | defective hrules =>
    rw [hrules]
    rfl
  | wordless hrules hrefusal =>
    simp only [hrules, hrefusal, Traced.ofExcept_ok_bind]
    rfl
  | refused hrules hrefusal =>
    simp only [hrules, hrefusal, Traced.ofExcept_ok_bind]
    rfl
  | absent hrules hvalid hlookup =>
    simp only [hrules, Requirement.refusal?_eq_none_iff.mpr hvalid, Traced.ofExcept_ok_bind,
      Requirement.skipsValueRules_of_valid hvalid, Validator.fieldPresent_eq hrules, hlookup]
    rfl
  | null hrules hvalid hlookup hnull =>
    simp only [hrules, Requirement.refusal?_eq_none_iff.mpr hvalid, Traced.ofExcept_ok_bind,
      Requirement.skipsValueRules_of_valid hvalid, Validator.fieldPresent_eq hrules, hlookup,
      Validator.fetch_of_lookup hlookup, any_isNullable_valueRules, hnull]
    rfl
  | ran hrules hvalid hlookup hnull =>
    simp only [hrules, Requirement.refusal?_eq_none_iff.mpr hvalid, Traced.ofExcept_ok_bind,
      Requirement.skipsValueRules_of_valid hvalid, Validator.fieldPresent_eq hrules, hlookup,
      Option.isSome_some, Bool.not_true, Bool.false_eq_true, if_false,
      Validator.fetch_of_lookup hlookup, any_isNullable_valueRules]
    split
    · next hpasses => exact absurd (hnull rfl) (by simp [hpasses])
    · rfl

/-- The rules have a defect, presence is refused, or the look-up decides. -/
theorem exists_fieldCheck (v : Validator) (wording : Wording) (dataset : Value) (field : Text)
    (rules : List FieldRule) : ∃ check, FieldCheck v wording dataset field rules check := by
  cases hrules : Requirement.ofRules wording field rules dataset.hasField with
  | error failure => exact ⟨_, .defective hrules⟩
  | ok r =>
    cases hrefusal : r.refusal? wording with
    | error failure => exact ⟨_, .wordless hrules hrefusal⟩
    | ok refusal =>
      cases refusal with
      | some error => exact ⟨_, .refused hrules hrefusal⟩
      | none =>
        have hvalid := Requirement.refusal?_eq_none_iff.mp hrefusal
        cases hlookup : dataset.lookup field with
        | none => exact ⟨_, .absent hrules hvalid hlookup⟩
        | some value =>
          by_cases hnull : value = .null ∧ rules.any FieldRule.isNullable = true
          · obtain ⟨rfl, hany⟩ := hnull
            exact ⟨_, .null hrules hvalid hlookup hany⟩
          · refine ⟨_, .ran hrules hvalid hlookup fun hvalue => ?_⟩
            exact Bool.eq_false_iff.mpr fun hany => hnull ⟨hvalue, hany⟩

namespace Validator

/-- The check of a field ends in one of the ways listed. -/
theorem checkField_fieldCheck (v : Validator) (wording : Wording) (dataset : Value) (field : Text)
    (rules : List FieldRule) :
    FieldCheck v wording dataset field rules (v.checkField wording dataset field rules) := by
  obtain ⟨check, hcheck⟩ := exists_fieldCheck v wording dataset field rules
  rwa [hcheck.checkField_eq]

/-! ## The verdict on a field -/

/-- What the check of a field finds wrong with it, if anything. -/
def verdict (v : Validator) (wording : Wording) (dataset : Value)
    (entry : Text × List FieldRule) : Except Failure (Option FieldFailure) :=
  (v.checkField wording dataset entry.1 entry.2).result

/-- What ends the run of value rules is the failure of one of them, and no refusal: a refusal is a
verdict. -/
theorem of_runRules_eq_error {registry : Registry} {value : Value} {failure : Failure}
    (h : (runRules registry wording field value rules).result = .error failure) :
    failure.isRefusal = false ∧
      ∃ rule ∈ rules, rule.validate registry wording field value = .error failure := by
  rcases runRules_cases rules with hpass | ⟨rule, hmem, failure', hfail, hreport⟩
  · rw [hpass] at h
    cases h
  · rw [hreport] at h
    obtain ⟨rfl, hrefusal⟩ := FieldRule.of_report_eq_error h
    exact ⟨hrefusal, rule, hmem, hfail⟩

/-- What ends the check of a field is a defect, or the failure of one of its rules, which is no
refusal. -/
theorem of_verdict_eq_error {failure : Failure}
    (h : v.verdict wording dataset (field, rules) = .error failure) :
    failure.isDefect = true ∨ failure.isRefusal = false ∧
      ∃ rule ∈ rules, ∃ value, rule.validate v.registry wording field value = .error failure := by
  have hcheck := v.checkField_fieldCheck wording dataset field rules
  unfold verdict at h
  dsimp only at h
  generalize v.checkField wording dataset field rules = check at h hcheck
  cases hcheck with
  | defective hrules =>
    obtain rfl := Except.error.inj h
    exact .inl (Requirement.isDefect_of_ofRules hrules)
  | wordless _ hrefusal =>
    obtain rfl := Except.error.inj h
    exact .inl (Requirement.isDefect_of_refusal? hrefusal)
  | refused | absent | null => cases h
  | @ran _ value =>
    obtain ⟨hrefusal, rule, hmem, hrule⟩ := of_runRules_eq_error h
    exact .inr ⟨hrefusal, rule, (List.mem_filter.mp hmem).1, value, hrule⟩

/-- A refusal of the data is always a verdict; what ends the validation is never one. -/
theorem not_isRefusal_of_verdict {entry : Text × List FieldRule} {failure : Failure}
    (h : v.verdict wording dataset entry = .error failure) : failure.isRefusal = false := by
  rcases of_verdict_eq_error h with hdefect | ⟨hrefusal, -⟩
  · exact Failure.not_isRefusal_of_isDefect hdefect
  · exact hrefusal

/-- What value rules find wrong is what one of them refuses. -/
theorem exists_of_runRules {registry : Registry} {value : Value} {failure : FieldFailure}
    (h : (runRules registry wording field value rules).result = .ok (some failure)) :
    ∃ rule ∈ rules, rule.validate registry wording field value = .error (.input failure.error) ∧
      failure = ⟨field, rule.label, failure.error⟩ := by
  rcases runRules_cases rules with hpass | ⟨rule, hmem, failure', hfail, hreport⟩
  · rw [hpass] at h
    cases h
  · rw [hreport] at h
    obtain ⟨rfl, hfailure⟩ := FieldRule.of_report_eq_some h
    exact ⟨rule, hmem, hfail, hfailure⟩

/-- What the check of a field finds wrong is put down to that field. -/
theorem field_of_verdict {entry : Text × List FieldRule} {failure : FieldFailure}
    (h : v.verdict wording dataset entry = .ok (some failure)) : failure.field = entry.1 := by
  have hcheck := v.checkField_fieldCheck wording dataset entry.1 entry.2
  unfold verdict at h
  generalize v.checkField wording dataset entry.1 entry.2 = check at h hcheck
  cases hcheck with
  | refused =>
    cases h
    unfold requirementFailure
    dsimp only
    split <;> rfl
  | defective | wordless | absent | null => cases h
  | ran =>
    obtain ⟨rule, -, -, hfailure⟩ := exists_of_runRules h
    rw [hfailure]

end Validator

end FieldValidation
