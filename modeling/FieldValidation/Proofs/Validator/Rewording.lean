import FieldValidation.Proofs.Rule.Violations
import FieldValidation.Proofs.Validator.Findings
import FieldValidation.Proofs.Validator.Passing

/-!
# Texts of an application change texts only

An application gives texts of its own to some failures. They are put on the rules when these are
compiled, and on the failures of presence when these are reported. A validator with such texts and
the one without are run on the same dataset: they come to the same failures, in the same order, and
the texts differ where, and only where, a text was given for a failure that takes one.

## Main definitions

* `Traced.Rewords`: a check that comes to what another does, but for the texts
* `Validator.worded`: a validator with the texts of an application
* `ReportsReword`: validations that end alike, but for the texts

## Main results

* `RulesRun.rewords`, `Validator.checkField_rewords`: a field is judged alike, but for the text
* `Validator.ofDeclarations_worded`: the texts are put on what is compiled without them
* `Validator.validateAll_rewords`: the reports of a validator with and without the texts
-/

namespace FieldValidation

/-! ## Alike but for the texts -/

/-- A check comes to what another comes to, but for the texts of an application. -/
inductive Traced.Rewords (messages : Entries Text) :
    Traced (Option FieldFailure) → Traced (Option FieldFailure) → Prop
  | passed (ran' ran : List Ran) : Rewords messages ⟨.ok none, ran'⟩ ⟨.ok none, ran⟩
  | ended (failure : Failure) (ran' ran : List Ran) :
      Rewords messages ⟨.error failure, ran'⟩ ⟨.error failure, ran⟩
  | failed {failure' failure : FieldFailure} {rule : Option FieldRule} (ran' : List Ran)
      {ran : List Ran} (hrule : ran.getLast?.map Ran.rule = rule)
      (hentry : Finding.entryUnder messages ⟨failure, rule⟩ = failure'.entry) :
      Rewords messages ⟨.ok (some failure'), ran'⟩ ⟨.ok (some failure), ran⟩

/-! ## The value rules -/

section Rules

variable {registry : Registry} {wording : Wording} {field : Text} {value : Value}

/-- What a named rule refuses is reported under its name, and a violation has the code of rule
violations. -/
theorem NamedRule.of_refusal (hcoded : registry.ViolationsCoded) {rule : NamedRule}
    (hvalue : (FieldRule.named rule).isRequirement = false) {error : InputError}
    (h : ((FieldRule.named rule).worded [] field).validate registry wording field value =
      .error (.input error)) :
    (FieldRule.named rule).label = rule.name ∧
      (error.kind.isViolation = true → error.code = InputErrorKind.rule.code) := by
  obtain ⟨hname, found, hfind, hrun⟩ := NamedRule.exists_of_refusal rfl h
  constructor
  · exact if_neg hname
  · exact hcoded rule found hvalue hfind wording field value rule.parameter error hrun

/-- What a named rule refuses is reported alike, but for the text of a violation. -/
theorem NamedRule.refusal_rewords (hcoded : registry.ViolationsCoded) (messages : Entries Text)
    {rule : NamedRule} (hvalue : (FieldRule.named rule).isRequirement = false)
    {error : InputError}
    (h : ((FieldRule.named rule).worded [] field).validate registry wording field value =
      .error (.input error)) {ran : List Ran} (ran' : List Ran)
    (hlast : ran.getLast?.map Ran.rule = some ((FieldRule.named rule).worded [] field)) :
    Traced.Rewords messages
      ⟨((FieldRule.named rule).worded messages field).report field
        ((FieldRule.named rule).failureUnder messages field (.input error)), ran'⟩
      ⟨((FieldRule.named rule).worded [] field).report field (.input error), ran⟩ := by
  obtain ⟨hlabel, hcode⟩ := NamedRule.of_refusal hcoded hvalue h
  have hgiven : (FieldRule.named rule).failureUnder messages field (.input error) =
      (Failure.input error).reword field
        (findMessage messages field (FieldRule.named rule).label) := by
    rw [hlabel]
    rfl
  rw [hgiven]
  cases htext : findMessage messages field (FieldRule.named rule).label with
  | none => exact .failed _ hlast (Finding.entryUnder_of_not_given htext)
  | some text =>
    cases hkind : error.kind.isViolation with
    | false =>
      rw [Failure.reword_of_not_isViolation field hkind]
      exact .failed _ hlast (Finding.entryUnder_of_not_takesText hkind)
    | true =>
      rw [Failure.reword_of_isViolation field hkind]
      have htakes : Finding.takesText ⟨⟨field, (FieldRule.named rule).label, error⟩,
          some ((FieldRule.named rule).worded [] field)⟩ = true := hkind
      refine .failed _ hlast ((Finding.entryUnder_of_given htakes htext).trans ?_)
      simp only [FieldFailure.entry, hcode hkind]
      rfl

/-- The rule that fails is reported alike, but for its text. -/
theorem FieldRule.report_rewords (hcoded : registry.ViolationsCoded) (messages : Entries Text)
    {rule : FieldRule} (hvalue : rule.isRequirement = false) {failure : Failure}
    (h : (rule.worded [] field).validate registry wording field value = .error failure)
    {ran ran' : List Ran} (hran : ran.getLast? = some ⟨field, rule.worded [] field, value⟩) :
    Traced.Rewords messages
      ⟨(rule.worded messages field).report field (rule.failureUnder messages field failure), ran'⟩
      ⟨(rule.worded [] field).report field failure, ran⟩ := by
  have hlast : ran.getLast?.map Ran.rule = some (rule.worded [] field) := by
    rw [hran]
    rfl
  cases failure with
  | input error =>
    cases rule with
    | predicate p => exact .failed _ hlast (Finding.entryUnder_of_not_takesText rfl)
    | named rule => exact NamedRule.refusal_rewords hcoded messages hvalue h ran' hlast
  | _ => cases rule <;> exact .ended _ _ _

/-- Rules that pass without texts pass with them. -/
theorem pass_worded (messages : Entries Text) {rules : List FieldRule}
    (h : ∀ rule ∈ rules.map (FieldRule.worded [] field),
      rule.validate registry wording field value = .ok ()) :
    ∀ rule ∈ rules.map (FieldRule.worded messages field),
      rule.validate registry wording field value = .ok () := by
  rw [List.forall_mem_map] at h ⊢
  intro rule hrule
  rw [FieldRule.validate_worded, h rule hrule]
  rfl

/-- The value rules end alike, but for the text of the one that fails. -/
theorem RulesRun.rewords (hcoded : registry.ViolationsCoded) (messages : Entries Text)
    {rules : List FieldRule} (hvalue : ∀ rule ∈ rules, rule.isRequirement = false)
    {plain : Traced (Option FieldFailure)}
    (h : RulesRun registry wording field value (rules.map (FieldRule.worded [] field)) plain) :
    ∃ worded,
      RulesRun registry wording field value (rules.map (FieldRule.worded messages field)) worded ∧
        Traced.Rewords messages worded plain := by
  generalize hruns : rules.map (FieldRule.worded [] field) = runs at h
  cases h with
  | passed hpass =>
    subst hruns
    exact ⟨_, .passed (pass_worded messages hpass), .passed _ _⟩
  | @failed before rule later failure hpass hfail =>
    obtain ⟨passing, rest, rfl, rfl, hrest⟩ := List.map_eq_append_iff.mp hruns
    obtain ⟨failing, others, rfl, rfl, rfl⟩ := List.map_eq_cons_iff.mp hrest
    have hfail' : (failing.worded messages field).validate registry wording field value =
        .error (failing.failureUnder messages field failure) := by
      rw [FieldRule.validate_worded, hfail]
      rfl
    rw [List.map_append, List.map_cons]
    exact ⟨_, .failed _ _ _ (pass_worded messages hpass) hfail',
      FieldRule.report_rewords hcoded messages (hvalue failing (by simp)) hfail (by simp)⟩

theorem runRules_rewords (hcoded : registry.ViolationsCoded) (messages : Entries Text)
    {rules : List FieldRule} (hvalue : ∀ rule ∈ rules, rule.isRequirement = false) :
    Traced.Rewords messages
      (Validator.runRules registry wording field value
        (rules.map (FieldRule.worded messages field)))
      (Validator.runRules registry wording field value
        (rules.map (FieldRule.worded [] field))) := by
  have hplain := Validator.runRules_rulesRun registry wording field value
    (rules.map (FieldRule.worded [] field))
  rw [filter_map_worded _ _ _ (by simp)] at hplain
  obtain ⟨worded, hworded, hrewords⟩ := hplain.rewords hcoded messages
    fun rule hrule => hvalue rule (List.mem_filter.mp hrule).1
  rw [← filter_map_worded _ _ _ (by simp)] at hworded
  rwa [hworded.runRules_eq]

end Rules

/-! ## The check of a field -/

namespace Validator

/-- A validator with the texts of an application. -/
def worded (v : Validator) (messages : Entries Text) : Validator where
  fields := CompiledRules.worded messages v.fields
  messages := messages
  registry := v.registry

variable {v : Validator} {wording : Wording} {dataset : Value}

/-- A failure of presence takes the text that is given for the rule it is reported under. -/
theorem requirementFailure_rewords (messages : Entries Text) (field : Text)
    (outcome : RequirementOutcome) (text : Text) (id : Option FieldId) :
    Traced.Rewords messages
      (.ofExcept (.ok (some (requirementFailure messages field outcome
        (.ofKind (.requirement outcome) text id)))))
      (.ofExcept (.ok (some (requirementFailure [] field outcome
        (.ofKind (.requirement outcome) text id))))) := by
  cases hgiven : findMessage messages field (requirementRule outcome) with
  | none =>
    simp only [requirementFailure, hgiven]
    exact .failed _ rfl (Finding.entryUnder_of_not_given hgiven)
  | some given =>
    simp only [requirementFailure, hgiven]
    exact .failed _ rfl (Finding.entryUnder_of_given rfl hgiven)

/-- A field is judged alike, but for the text of what is wrong with it. -/
theorem checkField_rewords (hcoded : v.registry.ViolationsCoded) (wording : Wording)
    (dataset : Value) (messages : Entries Text) (field : Text) (rules : List FieldRule) :
    Traced.Rewords messages
      ((v.worded messages).checkField wording dataset field
        (rules.map (FieldRule.worded messages field)))
      ((v.worded []).checkField wording dataset field (rules.map (FieldRule.worded [] field))) := by
  have hrequirement :
      Requirement.ofRules wording field (rules.map (FieldRule.worded messages field))
          dataset.hasField =
        Requirement.ofRules wording field (rules.map (FieldRule.worded [] field))
          dataset.hasField := by
    rw [Requirement.ofRules_worded, Requirement.ofRules_worded]
  have hnullable : (rules.map (FieldRule.worded messages field)).any FieldRule.isNullable =
      (rules.map (FieldRule.worded [] field)).any FieldRule.isNullable := by
    rw [any_map_worded _ _ _ (by simp), any_map_worded _ _ _ (by simp)]
  have hplain := (v.worded []).checkField_fieldCheck wording dataset field
    (rules.map (FieldRule.worded [] field))
  generalize (v.worded []).checkField wording dataset field
    (rules.map (FieldRule.worded [] field)) = plain at hplain ⊢
  cases hplain with
  | defective hrules =>
    rw [(FieldCheck.defective (hrequirement.trans hrules)).checkField_eq]
    exact .ended _ _ _
  | wordless hrules hrefusal =>
    rw [(FieldCheck.wordless (hrequirement.trans hrules) hrefusal).checkField_eq]
    exact .ended _ _ _
  | refused hrules hrefusal =>
    rw [(FieldCheck.refused (hrequirement.trans hrules) hrefusal).checkField_eq]
    obtain ⟨text, rfl⟩ := Requirement.refusal?_eq_some hrefusal
    exact requirementFailure_rewords messages field _ text _
  | absent hrules hvalid hlookup =>
    rw [(FieldCheck.absent (hrequirement.trans hrules) hvalid hlookup).checkField_eq]
    exact .passed _ _
  | null hrules hvalid hlookup hnull =>
    rw [(FieldCheck.null (hrequirement.trans hrules) hvalid hlookup
      (hnullable.trans hnull)).checkField_eq]
    exact .passed _ _
  | ran hrules hvalid hlookup hnull =>
    rw [(FieldCheck.ran (hrequirement.trans hrules) hvalid hlookup
      fun hvalue => hnullable.trans (hnull hvalue)).checkField_eq]
    rw [valueRules_worded, valueRules_worded]
    apply runRules_rewords hcoded messages
    intro rule hrule
    simpa using (List.mem_filter.mp hrule).2

end Validator

/-! ## The report -/

/-- Failures are gathered as others are, but for the texts of an application. -/
inductive FailuresReword (messages : Entries Text) (findings : List Finding) :
    Except Failure (List FieldFailure) → Except Failure (List FieldFailure) → Prop
  | ended (failure : Failure) : FailuresReword messages findings (.error failure) (.error failure)
  | gathered {failures : List FieldFailure}
      (hentries : failures.map FieldFailure.entry = findings.map (Finding.entryUnder messages)) :
      FailuresReword messages findings (.ok failures) (.ok (findings.map Finding.failure))

namespace Validator

variable {v : Validator} {wording : Wording} {dataset : Value}

/-- The failures of some fields are gathered alike, but for their texts. -/
theorem failuresOf_rewords (hcoded : v.registry.ViolationsCoded) (wording : Wording)
    (dataset : Value) (messages : Entries Text) (fields : CompiledRules) :
    FailuresReword messages
      ((v.worded []).findingsOf wording dataset (CompiledRules.worded [] fields))
      ((v.worded messages).failuresOf wording dataset (CompiledRules.worded messages fields)).result
      ((v.worded []).failuresOf wording dataset (CompiledRules.worded [] fields)).result := by
  induction fields with
  | nil => exact .gathered rfl
  | cons entry rest ih =>
    obtain ⟨field, rules⟩ := entry
    have hcheck := checkField_rewords hcoded wording dataset messages field rules
    unfold CompiledRules.worded at ih ⊢
    simp only [List.map_cons, result_failuresOf_cons, findingsOf_cons, verdict]
    generalize (v.worded messages).checkField wording dataset field _ = worded at hcheck ⊢
    generalize (v.worded []).checkField wording dataset field _ = plain at hcheck ⊢
    generalize ((v.worded messages).failuresOf wording dataset _).result = others' at ih ⊢
    generalize ((v.worded []).failuresOf wording dataset _).result = others at ih ⊢
    generalize (v.worded []).findingsOf wording dataset _ = findings at ih ⊢
    cases hcheck with
    | ended failure => exact .ended failure
    | passed =>
      cases ih with
      | ended failure => exact .ended failure
      | gathered hentries => exact .gathered hentries
    | failed _ hrule hentry =>
      cases ih with
      | ended failure => exact .ended failure
      | gathered hentries =>
        subst hrule
        refine .gathered ?_
        rw [Option.toList_some, List.singleton_append, List.map_cons, hentries, ← hentry]
        rfl

end Validator

/-! ## With and without the texts -/

namespace Validator

/-- The texts of an application are put on what is made without them. -/
theorem ofDeclarations_worded (wording : Wording) (registry : Registry) (messages : Entries Text)
    (declarations : Declarations) :
    ofDeclarations wording registry messages declarations =
      (ofDeclarations wording registry [] declarations).map (·.worded messages) := by
  unfold ofDeclarations
  rw [compile_worded]
  cases compile wording [] declarations <;> rfl

/-- What is made without texts has none. -/
theorem worded_nil_of_ofDeclarations {wording : Wording} {registry : Registry}
    {declarations : Declarations} {v : Validator}
    (h : ofDeclarations wording registry [] declarations = .ok v) : v.worded [] = v := by
  have hworded := ofDeclarations_worded wording registry [] declarations
  rw [h] at hworded
  exact (Except.ok.inj hworded).symm

theorem registry_of_ofDeclarations {wording : Wording} {registry : Registry}
    {messages : Entries Text} {declarations : Declarations} {v : Validator}
    (h : ofDeclarations wording registry messages declarations = .ok v) :
    v.registry = registry := by
  obtain ⟨_, -, rfl⟩ := ofDeclarations_eq_ok_iff.mp h
  rfl

end Validator

/-- A validation with the texts of an application ends as the one without them: with the same
failure, or with a report of the same failed fields, where only the texts may differ. -/
inductive ReportsReword (messages : Entries Text) (findings : List Finding) :
    Except Failure Report → Except Failure Report → Prop
  | ended (failure : Failure) : ReportsReword messages findings (.error failure) (.error failure)
  | made : ReportsReword messages findings (.ok ⟨findings.map (Finding.entryUnder messages)⟩)
      (.ok ⟨findings.map fun finding => finding.failure.entry⟩)

namespace Validator

/-- **Texts of an application change texts only, and just the right ones.** Declarations make a
validator with the texts where they make one without, or fail to alike. On every dataset the two
end with the same failure, or they report the same failed fields under the same rules and codes.
The texts differ just where one was given for the field and the rule, and the failure is one of
presence or a violation that a named rule reports. -/
theorem validateAll_rewords {registry : Registry} (hcoded : registry.ViolationsCoded)
    (construction wording : Wording) (messages : Entries Text) (declarations : Declarations)
    (dataset : Value) :
    (∃ failure, ofDeclarations construction registry messages declarations = .error failure ∧
      ofDeclarations construction registry [] declarations = .error failure) ∨
    ∃ worded plain, ofDeclarations construction registry messages declarations = .ok worded ∧
      ofDeclarations construction registry [] declarations = .ok plain ∧
      ReportsReword messages (plain.findings wording dataset)
        (worded.validateAll wording dataset).result (plain.validateAll wording dataset).result := by
  rw [ofDeclarations_worded construction registry messages]
  cases hplain : ofDeclarations construction registry [] declarations with
  | error failure => exact .inl ⟨failure, rfl, rfl⟩
  | ok plain =>
    refine .inr ⟨plain.worded messages, plain, rfl, rfl, ?_⟩
    obtain rfl := registry_of_ofDeclarations hplain
    have hfailures : FailuresReword messages ((plain.worded []).findings wording dataset)
        ((plain.worded messages).failuresOf wording dataset (plain.worded messages).fields).result
        ((plain.worded []).failuresOf wording dataset (plain.worded []).fields).result :=
      failuresOf_rewords hcoded wording dataset messages plain.fields
    rw [worded_nil_of_ofDeclarations hplain] at hfailures
    rw [result_validateAll, result_validateAll]
    generalize ((plain.worded messages).failuresOf wording dataset _).result = failures'
      at hfailures ⊢
    generalize (plain.failuresOf wording dataset _).result = failures at hfailures ⊢
    cases hfailures with
    | ended failure => exact .ended failure
    | gathered hentries =>
      simp only [Except.map, hentries, List.map_map]
      exact .made

/-- A number that is too small is reported in the words given for that, whose key is in another
letter case. -/
theorem validateAll_rewords_standard :
    ∃ worded plain,
      ofDeclarations (.bundled "en") (.standard (.standard 2025)) [("age.MIN", "Too young.")]
          [("age", [.text "min:18"])] = .ok worded ∧
        ofDeclarations (.bundled "en") (.standard (.standard 2025)) []
          [("age", [.text "min:18"])] = .ok plain ∧
        ReportsReword [("age.MIN", "Too young.")]
          (plain.findings ⟨[Phrase.fieldMinValue.catalogUnit], "en"⟩
            (.record [("age", .number (.ofNat 5))]))
          (worded.validateAll ⟨[Phrase.fieldMinValue.catalogUnit], "en"⟩
            (.record [("age", .number (.ofNat 5))])).result
          (plain.validateAll ⟨[Phrase.fieldMinValue.catalogUnit], "en"⟩
            (.record [("age", .number (.ofNat 5))])).result ∧
        (worded.validateAll ⟨[Phrase.fieldMinValue.catalogUnit], "en"⟩
            (.record [("age", .number (.ofNat 5))])).result.toOption =
          some ⟨[⟨"age", "min", "RULE_VIOLATION", "Too young."⟩]⟩ := by
  rcases validateAll_rewords (Registry.standard_violationsCoded (.standard 2025)) (.bundled "en")
    ⟨[Phrase.fieldMinValue.catalogUnit], "en"⟩ [("age.MIN", "Too young.")]
    [("age", [.text "min:18"])] (.record [("age", .number (.ofNat 5))])
    with ⟨failure, h, -⟩ | ⟨worded, plain, hworded, hplain, hreports⟩
  · cases h
  · refine ⟨worded, plain, hworded, hplain, hreports, ?_⟩
    have hreport : (do
        let v ← ofDeclarations (.bundled "en") (.standard (.standard 2025))
          [("age.MIN", "Too young.")] [("age", [.text "min:18"])]
        (v.validateAll ⟨[Phrase.fieldMinValue.catalogUnit], "en"⟩
          (.record [("age", .number (.ofNat 5))])).result).toOption =
        some ⟨[⟨"age", "min", "RULE_VIOLATION", "Too young."⟩]⟩ := by
      decide +kernel
    rw [hworded] at hreport
    exact hreport

end Validator

end FieldValidation
