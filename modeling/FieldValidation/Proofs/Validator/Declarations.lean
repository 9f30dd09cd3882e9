import FieldValidation.Proofs.Requirement.PresenceTable
import FieldValidation.Proofs.Rule.RoundTrip
import FieldValidation.Proofs.Rule.Violations
import FieldValidation.Proofs.Validator.Agreement
import FieldValidation.Proofs.Validator.Compilation

/-!
# Defects of declarations

What is wrong with the declarations does not wait for the data that would bring it out. A text
without a rule name is found when the validator is made, so there is no rule without a name to be
looked up afterwards. A partner that cannot be one is found whenever its field is checked: the
constraints of a field come before the look at the data, and the checks of the fields before it end
in a verdict or end the validation as well.

## Main definitions

* `Declarations.HasNameless`: one of the texts has no rule name
* `Declarations.MisnamePartner`: one of the texts names a partner that cannot be one
* `ApplicationRule.Raises`, `Predicate.Raises`: an application fails with a failure
* `Wording.NamelessFailure`: what a text without a rule name fails with

## Main results

* `exists_compile_declarations_iff`: which declarations compile
* `namelessFailure_of_compile`: what the others fail with
* `FieldRule.origin_of_invalidRule`: where the failure of a missing rule name can come from
* `Validator.verdict_of_misnames`: a partner that cannot be one ends it
* `Validator.declaration_defects`: both kinds of defects, from the declarations to a validation
-/

namespace FieldValidation

namespace Declarations

/-- One of the texts has no rule name: nothing but blanks stands before its first colon. -/
def HasNameless (declarations : Declarations) : Prop :=
  ∃ field definitions rule, (field, definitions) ∈ declarations ∧
    Definition.text rule ∈ definitions ∧ (RuleSpec.nameText rule).IsBlank

/-- One of the texts asks for a partner of its field and names none, or the field itself. -/
def MisnamePartner (declarations : Declarations) : Prop :=
  ∃ field definitions rule parameter, (field, definitions) ∈ declarations ∧
    Definition.text rule ∈ definitions ∧
    RuleSpec.parse? rule = some ⟨requiredWithoutName, parameter⟩ ∧
    (parameter = none ∨ parameter = some field)

end Declarations

/-- A rule of the application fails with a failure, on some value under some parameter. -/
def ApplicationRule.Raises (rule : ApplicationRule) (checks : Checks) (failure : Failure) : Prop :=
  ∃ field value parameter, rule.validate checks field value parameter = .error failure

/-- A predicate fails with a failure, on some value. -/
def Predicate.Raises (p : Predicate) (failure : Failure) : Prop :=
  ∃ value, p.answer value = .error failure

/-- What a text without a rule name fails with: that failure in words, or the want of words for
it. -/
def Wording.NamelessFailure (wording : Wording) (failure : Failure) : Prop :=
  (∃ message, wording.say .ruleMustBeNonEmpty [] = .ok message ∧ failure = .invalidRule message) ∨
    wording.say .ruleMustBeNonEmpty [] = .error failure

/-- With a text for it the failure is told. -/
theorem Wording.NamelessFailure.of_tells {wording : Wording} {failure : Failure}
    (h : wording.NamelessFailure failure) (htells : wording.Tells .ruleMustBeNonEmpty 0) :
    ∃ message, failure = .invalidRule message := by
  rcases h with ⟨message, -, rfl⟩ | hmissing
  · exact ⟨message, rfl⟩
  · obtain ⟨message, hsay⟩ := htells [] rfl
    rw [hmissing] at hsay
    cases hsay

/-- Without one it is the fault of the catalog. -/
theorem Wording.NamelessFailure.of_not_tells {wording : Wording} {failure : Failure}
    (h : wording.NamelessFailure failure) (htells : ¬ wording.Tells .ruleMustBeNonEmpty 0) :
    ∃ fault, failure = .catalog fault := by
  rcases h with ⟨message, hsay, -⟩ | hmissing
  · refine absurd (fun args hargs => ?_) htells
    obtain rfl := List.eq_nil_of_length_eq_zero hargs
    exact ⟨message, hsay⟩
  · exact Wording.exists_of_say_eq_error hmissing

/-! ## Making the validator -/

section Compiling

variable {wording : Wording} {messages : Entries Text} {declarations : Declarations}
  {field : Text} {failure : Failure}

/-- A text is compiled to the rule that is read off it. -/
theorem Definition.compile_text_of_parse? {rule : Text} {spec : RuleSpec}
    (h : RuleSpec.parse? rule = some spec) :
    (Definition.text rule).compile wording messages field =
      .ok (.named ⟨spec.name, (spec.parameter.map Value.text).getD .null,
        findMessage messages field spec.name⟩) := by
  simp only [compile, h]
  rfl

/-- A text that no rule is read off is not compiled. -/
theorem Definition.exists_parse?_of_compile {rule : Text} {compiled : FieldRule}
    (h : (Definition.text rule).compile wording messages field = .ok compiled) :
    ∃ spec, RuleSpec.parse? rule = some spec := by
  cases hspec : RuleSpec.parse? rule with
  | some spec => exact ⟨spec, rfl⟩
  | none =>
    simp only [compile, hspec] at h
    exact absurd h Wording.tell_ne_ok

/-- A definition that is not compiled is a text without a rule name. -/
theorem Definition.of_compile_eq_error {definition : Definition}
    (h : definition.compile wording messages field = .error failure) :
    (∃ rule, definition = .text rule ∧ (RuleSpec.nameText rule).IsBlank) ∧
      wording.NamelessFailure failure := by
  cases definition with
  | predicate p => cases h
  | text rule =>
    cases hspec : RuleSpec.parse? rule with
    | some spec => rw [compile_text_of_parse? hspec] at h; cases h
    | none =>
      refine ⟨⟨rule, rfl, RuleSpec.parse?_eq_none_iff.mp hspec⟩, ?_⟩
      simp only [compile, hspec] at h
      cases hsay : wording.say .ruleMustBeNonEmpty [] with
      | ok message =>
        rw [hsay] at h
        exact .inl ⟨message, hsay, (Except.error.inj h).symm⟩
      | error missing =>
        rw [hsay] at h
        obtain rfl : missing = failure := Except.error.inj h
        exact .inr hsay

/-- Declarations compile where every text has a rule name. -/
theorem exists_compile_declarations_iff :
    (∃ fields, compile wording messages declarations = .ok fields) ↔
      ¬ declarations.HasNameless := by
  constructor
  · rintro ⟨fields, hfields⟩ ⟨field, definitions, rule, hdeclared, hrule, hblank⟩
    obtain ⟨rules, -, hrules⟩ := exists_rules_of_mem hfields hdeclared
    obtain ⟨compiled, hcompiled⟩ := exists_of_mapM_eq_ok hrules hrule
    obtain ⟨spec, hspec⟩ := Definition.exists_parse?_of_compile hcompiled
    rw [RuleSpec.parse?_eq_none_iff.mpr hblank] at hspec
    cases hspec
  · intro hnamed
    refine exists_mapM_eq_ok ?_
    rintro ⟨field, definitions⟩ hdeclared
    have hall : ∀ definition ∈ definitions,
        ∃ compiled, definition.compile wording messages field = .ok compiled := by
      intro definition hdefinition
      cases hcompile : definition.compile wording messages field with
      | ok compiled => exact ⟨compiled, rfl⟩
      | error failure =>
        obtain ⟨⟨rule, rfl, hblank⟩, -⟩ := Definition.of_compile_eq_error hcompile
        exact absurd ⟨field, definitions, rule, hdeclared, hdefinition, hblank⟩ hnamed
    obtain ⟨rules, hrules⟩ := exists_mapM_eq_ok hall
    exact ⟨(field, rules), bind_eq_ok_iff.mpr ⟨rules, hrules, rfl⟩⟩

/-- Declarations that do not compile fail for want of a rule name. -/
theorem namelessFailure_of_compile (h : compile wording messages declarations = .error failure) :
    wording.NamelessFailure failure := by
  obtain ⟨⟨field, definitions⟩, -, hentry⟩ := exists_of_mapM_eq_error h
  dsimp only at hentry
  cases hrules : definitions.mapM (Definition.compile wording messages field) with
  | ok rules => rw [hrules] at hentry; cases hentry
  | error missing =>
    rw [hrules] at hentry
    obtain rfl : missing = failure := Except.error.inj hentry
    obtain ⟨definition, -, hdefinition⟩ := exists_of_mapM_eq_error hrules
    exact (Definition.of_compile_eq_error hdefinition).2

/-- A rule that is not a predicate has a name. -/
theorem name_ne_nil_of_compile {fields : CompiledRules}
    (h : compile wording messages declarations = .ok fields) {rules : List FieldRule}
    (hentry : (field, rules) ∈ fields) {rule : NamedRule}
    (hmem : FieldRule.named rule ∈ rules) : rule.name ≠ [] := by
  obtain ⟨definitions, -, hrules⟩ := exists_definitions_of_mem h hentry
  obtain ⟨definition, -, hrule⟩ := exists_of_mem_mapM hrules hmem
  cases definition with
  | predicate p => cases hrule
  | text written =>
    obtain ⟨spec, hspec⟩ := Definition.exists_parse?_of_compile hrule
    rw [Definition.compile_text_of_parse? hspec] at hrule
    obtain rfl := FieldRule.named.inj (Except.ok.inj hrule)
    exact (RuleSpec.canonical_of_parse? hspec).name_ne_nil

end Compiling

/-! ## Looking up a rule -/

section Raising

variable {registry : Registry} {wording : Wording} {field : FieldId} {value : Value}
  {message : Text}

/-- A missing rule name comes of telling a failure only where that is the failure. -/
theorem Wording.of_tell_eq_invalidRule {α : Type} {phrase : Phrase} {args : List Text}
    {tell : Text → Failure}
    (h : (do throw (tell (← wording.say phrase args)) : Except Failure α) =
      .error (.invalidRule message)) : ∃ text, tell text = .invalidRule message := by
  rcases of_tell_eq_error h with ⟨text, htold⟩ | ⟨fault, hfault⟩
  · exact ⟨text, htold.symm⟩
  · cases hfault

/-- A verdict is told as a refusal or as a defect. -/
theorem Verdict.tell_ne_invalidRule {verdict : Verdict} :
    verdict.tell wording field ≠ .error (.invalidRule message) := by
  intro h
  cases verdict with
  | passes => cases h
  | violated | notAValueRule | unusableParameter =>
    obtain ⟨text, htold⟩ := Wording.of_tell_eq_invalidRule h
    cases htold

theorem Failure.eq_invalidRule_of_reword {failure : Failure} {text : Option Text}
    (h : failure.reword field text = .invalidRule message) : failure = .invalidRule message := by
  cases failure with
  | input error =>
    unfold reword at h
    repeat' split at h
    all_goals cases h
  | _ => exact h

/-- Where the failure of a missing rule name can come from when a rule is run. -/
inductive InvalidRuleOrigin (registry : Registry) (message : Text) : FieldRule → Prop
  /-- The rule has no name. -/
  | nameless {rule : NamedRule} (hname : rule.name = []) :
      InvalidRuleOrigin registry message (.named rule)
  /-- A rule of the application fails with it. -/
  | application {rule : NamedRule} {found : ApplicationRule}
      (hfind : registry.find? rule.name = some (.application found))
      (hraises : found.Raises registry.checks (.invalidRule message)) :
      InvalidRuleOrigin registry message (.named rule)
  /-- A predicate fails with it. -/
  | predicate {p : Predicate} (hraises : p.Raises (.invalidRule message)) :
      InvalidRuleOrigin registry message (.predicate p)

theorem NamedRule.origin_of_invalidRule {rule : NamedRule}
    (h : rule.validate registry wording field value = .error (.invalidRule message)) :
    InvalidRuleOrigin registry message (.named rule) := by
  by_cases hname : rule.name = []
  · exact .nameless hname
  · have hget : registry.get? wording rule.name = .ok (registry.find? rule.name) :=
      Registry.get?_eq_ok_iff.mpr ⟨hname, rfl⟩
    unfold validate at h
    rw [hget] at h
    cases hfind : registry.find? rule.name with
    | none =>
      rw [hfind] at h
      obtain ⟨text, htold⟩ := Wording.of_tell_eq_invalidRule h
      cases htold
    | some found =>
      rw [hfind] at h
      simp only [bind, Except.bind] at h
      cases hrun : found.validate registry.checks wording field value rule.parameter with
      | ok _ => rw [hrun] at h; cases h
      | error failure =>
        rw [hrun] at h
        obtain rfl := Failure.eq_invalidRule_of_reword (Except.error.inj h)
        cases found with
        | builtin builtin => exact absurd hrun Verdict.tell_ne_invalidRule
        | application found => exact .application hfind ⟨_, _, _, hrun⟩

theorem FieldRule.origin_of_invalidRule {rule : FieldRule}
    (h : rule.validate registry wording field value = .error (.invalidRule message)) :
    InvalidRuleOrigin registry message rule := by
  cases rule with
  | named rule => exact NamedRule.origin_of_invalidRule h
  | predicate p =>
    refine .predicate ⟨value, ?_⟩
    change p.validate wording field value = _ at h
    unfold Predicate.validate at h
    cases hanswer : p.answer value with
    | error failure =>
      rw [hanswer] at h
      exact congrArg Except.error (Except.error.inj h)
    | ok answer =>
      rw [hanswer] at h
      simp only [bind, Except.bind] at h
      split at h
      · obtain ⟨text, htold⟩ := Wording.of_tell_eq_invalidRule h
        cases htold
      · cases h

end Raising

/-! ## The check of a field -/

namespace Validator

variable {v : Validator} {wording : Wording} {dataset : Value} {field : Text}
  {rules : List FieldRule} {failure : Failure}

/-- A rule that names as a partner what cannot be one ends the check of its field. -/
theorem verdict_of_misnames (h : ∃ rule ∈ rules, rule.Misnames (.name field)) :
    ∃ failure, v.verdict wording dataset (field, rules) = .error failure := by
  obtain ⟨defect, hdefect⟩ := Constraints.exists_defect h
  cases hrules : Requirement.ofRules wording field rules dataset.hasField with
  | error failure =>
    refine ⟨failure, ?_⟩
    unfold verdict
    rw [(FieldCheck.defective hrules).checkField_eq]
    rfl
  | ok r =>
    obtain ⟨constraints, hconstraints, -⟩ := Requirement.ofRules_eq_ok hrules
    rw [hdefect] at hconstraints
    cases hconstraints

/-! ## The validation -/

/-- What ends a validation that stops at the first failure is what ends the check of a field, or a
refusal. -/
theorem of_validate_eq_error (h : (v.validate wording dataset).result = .error failure) :
    failure.isRefusal = true ∨
      ∃ entry ∈ v.fields, v.verdict wording dataset entry = .error failure := by
  obtain ⟨before, entry, after, hfields, -, hended | ⟨refused, -, rfl⟩⟩ := exists_stop_of_validate h
  · exact .inr ⟨entry, by rw [hfields]; simp, hended⟩
  · exact .inl rfl

variable {construction : Wording} {registry : Registry} {messages : Entries Text}
  {declarations : Declarations}

/-- A validator is made where every text has a rule name. -/
theorem exists_ofDeclarations_eq_ok_iff :
    (∃ v, ofDeclarations construction registry messages declarations = .ok v) ↔
      ¬ declarations.HasNameless := by
  have hcompile := @exists_compile_declarations_iff construction messages declarations
  simp only [ofDeclarations_eq_ok_iff, ← hcompile]
  exact ⟨fun ⟨_, fields, hfields, _⟩ => ⟨fields, hfields⟩,
    fun ⟨fields, hfields⟩ => ⟨_, fields, hfields, rfl⟩⟩

/-- Where no validator is made there is a text without a rule name, and that is what is failed
for. -/
theorem ofDeclarations_eq_error
    (h : ofDeclarations construction registry messages declarations = .error failure) :
    declarations.HasNameless ∧ construction.NamelessFailure failure := by
  have hcompile : compile construction messages declarations = .error failure := by
    unfold ofDeclarations at h
    cases hfields : compile construction messages declarations with
    | ok fields => rw [hfields] at h; cases h
    | error missing =>
      rw [hfields] at h
      exact congrArg Except.error (Except.error.inj h)
  refine ⟨?_, namelessFailure_of_compile hcompile⟩
  by_contra hnamed
  obtain ⟨fields, hfields⟩ := exists_compile_declarations_iff.mpr hnamed
  rw [hfields] at hcompile
  cases hcompile

/-- No check of a validator that was made fails for want of a rule name, unless the application
does. -/
theorem verdict_ne_invalidRule
    (hv : ofDeclarations construction registry messages declarations = .ok v)
    (hrules : ∀ name rule, (name, Rule.application rule) ∈ registry.rules →
      ∀ message, ¬ rule.Raises registry.checks (.invalidRule message))
    (hpredicates : ∀ field definitions p, (field, definitions) ∈ declarations →
      Definition.predicate p ∈ definitions → ∀ message, ¬ p.Raises (.invalidRule message))
    {entry : Text × List FieldRule} (hentry : entry ∈ v.fields) (message : Text) :
    v.verdict wording dataset entry ≠ .error (.invalidRule message) := by
  intro hended
  obtain ⟨fields, hcompile, rfl⟩ := ofDeclarations_eq_ok_iff.mp hv
  obtain ⟨field, rules⟩ := entry
  rcases of_verdict_eq_error hended with hdefect | ⟨-, rule, hmem, value, hrule⟩
  · cases hdefect
  · cases FieldRule.origin_of_invalidRule hrule with
    | nameless hname => exact name_ne_nil_of_compile hcompile hentry hmem hname
    | @application rule found hfind hraises =>
      obtain ⟨before, after, hregistry, -⟩ := List.lookup_eq_some_iff.mp hfind
      have hfound : (Text.toLower rule.name, Rule.application found) ∈ registry.rules := by
        rw [show registry.rules = _ from hregistry]
        simp
      exact hrules _ found hfound message hraises
    | @predicate p hraises =>
      obtain ⟨definitions, hdeclared, hcompiled⟩ := exists_definitions_of_mem hcompile hentry
      obtain ⟨definition, hdefinition, hrule⟩ := exists_of_mem_mapM hcompiled hmem
      cases definition with
      | predicate p' =>
        cases hrule
        exact hpredicates field definitions p hdeclared hdefinition message hraises
      | text written =>
        obtain ⟨spec, hspec⟩ := Definition.exists_parse?_of_compile hrule
        rw [Definition.compile_text_of_parse? hspec] at hrule
        cases hrule

/-- Where a partner cannot be one, there is a field whose check ends whatever the data is. -/
theorem exists_verdict_of_misnamePartner
    (hv : ofDeclarations construction registry messages declarations = .ok v)
    (h : declarations.MisnamePartner) :
    ∃ entry ∈ v.fields, ∀ (wording : Wording) (dataset : Value),
      ∃ failure, v.verdict wording dataset entry = .error failure := by
  obtain ⟨fields, hcompile, rfl⟩ := ofDeclarations_eq_ok_iff.mp hv
  obtain ⟨field, definitions, rule, parameter, hdeclared, hdefinition, hspec, hparameter⟩ := h
  obtain ⟨rules, hentry, hcompiled⟩ := exists_rules_of_mem hcompile hdeclared
  obtain ⟨compiled, hmem, hrule⟩ := exists_mem_of_mapM_eq_ok hcompiled hdefinition
  rw [Definition.compile_text_of_parse? hspec] at hrule
  obtain rfl := Except.ok.inj hrule
  refine ⟨(field, rules), hentry, fun wording dataset => verdict_of_misnames ⟨_, hmem, ?_⟩⟩
  have hname : Text.toLower requiredWithoutName = requiredWithoutName := by decide
  refine ⟨by simp [FieldRule.namesPartner, FieldRule.name, hname], ?_⟩
  rcases hparameter with rfl | rfl
  · left
    intro partner hpartner
    cases partner <;> cases hpartner
  · exact .inr rfl

/-- A validator is made of declarations unless one of their texts has no rule name; it is failed for
that, or in a language without a text for it for the want of one. Once it is made, no validation
fails for want of a rule name, unless a rule or a predicate of the application does. Where a text
asks for a partner and names none, or the field itself, no validation comes to an end on any
data. -/
theorem declaration_defects (construction : Wording) (registry : Registry)
    (messages : Entries Text) (declarations : Declarations) :
    ((∃ v, ofDeclarations construction registry messages declarations = .ok v) ↔
      ¬ declarations.HasNameless) ∧
    (construction.Tells .ruleMustBeNonEmpty 0 →
      ((∃ message, ofDeclarations construction registry messages declarations =
        .error (.invalidRule message)) ↔ declarations.HasNameless)) ∧
    (¬ construction.Tells .ruleMustBeNonEmpty 0 →
      ((∃ fault, ofDeclarations construction registry messages declarations =
        .error (.catalog fault)) ↔ declarations.HasNameless)) ∧
    ∀ v, ofDeclarations construction registry messages declarations = .ok v →
      ((∀ name rule, (name, Rule.application rule) ∈ registry.rules →
          ∀ message, ¬ rule.Raises registry.checks (.invalidRule message)) →
        (∀ field definitions p, (field, definitions) ∈ declarations →
          Definition.predicate p ∈ definitions → ∀ message, ¬ p.Raises (.invalidRule message)) →
        ∀ (wording : Wording) (dataset : Value) (message : Text),
          (v.validate wording dataset).result ≠ .error (.invalidRule message) ∧
            (v.validateAll wording dataset).result ≠ .error (.invalidRule message)) ∧
      (declarations.MisnamePartner → ∀ (wording : Wording) (dataset : Value),
        (v.validate wording dataset).result ≠ .ok () ∧
          ∀ report, (v.validateAll wording dataset).result ≠ .ok report) := by
  have hfails (h : declarations.HasNameless) : ∃ failure,
      ofDeclarations construction registry messages declarations = .error failure := by
    cases hbuilt : ofDeclarations construction registry messages declarations with
    | error failure => exact ⟨failure, rfl⟩
    | ok v => exact absurd h (exists_ofDeclarations_eq_ok_iff.mp ⟨v, hbuilt⟩)
  refine ⟨exists_ofDeclarations_eq_ok_iff, ?told, ?untold, fun v hv => ⟨?lookup, ?partner⟩⟩
  case told =>
    refine fun htells => ⟨fun ⟨_, hended⟩ => (ofDeclarations_eq_error hended).1, fun h => ?_⟩
    obtain ⟨failure, hended⟩ := hfails h
    obtain ⟨message, rfl⟩ := (ofDeclarations_eq_error hended).2.of_tells htells
    exact ⟨message, hended⟩
  case untold =>
    refine fun htells => ⟨fun ⟨_, hended⟩ => (ofDeclarations_eq_error hended).1, fun h => ?_⟩
    obtain ⟨failure, hended⟩ := hfails h
    obtain ⟨fault, rfl⟩ := (ofDeclarations_eq_error hended).2.of_not_tells htells
    exact ⟨fault, hended⟩
  case lookup =>
    intro hrules hpredicates wording dataset message
    constructor
    · intro hended
      rcases of_validate_eq_error hended with hrefusal | ⟨entry, hentry, hverdict⟩
      · cases hrefusal
      · exact verdict_ne_invalidRule hv hrules hpredicates hentry message hverdict
    · intro hended
      obtain ⟨entry, hentry, hverdict⟩ := of_validateAll_eq_error hended
      exact verdict_ne_invalidRule hv hrules hpredicates hentry message hverdict
  case partner =>
    intro hmisnames wording dataset
    obtain ⟨entry, hentry, hended⟩ := exists_verdict_of_misnamePartner hv hmisnames
    obtain ⟨failure, hfailure⟩ := hended wording dataset
    constructor
    · intro hpassed
      rw [passes_of_validate hpassed entry hentry] at hfailure
      cases hfailure
    · intro report hreport
      obtain ⟨found, hfound⟩ := exists_verdict_of_validateAll hreport hentry
      rw [hfound] at hfailure
      cases hfailure

/-- In the English texts: ` : x` has no rule name, and `requiredWithout:b` of `b` ends every
validation, though `a` is checked before. -/
theorem declaration_defects_both :
    let english : Wording := .bundled Phrase.bundledLanguage
    let standard : Registry := .standard (.standard 2025)
    (∃ message, ofDeclarations english standard [] [("a", [.text " : x"])] =
      .error (.invalidRule message)) ∧
    ∃ v, ofDeclarations english standard []
        [("a", [.text "string"]), ("b", [.text "requiredWithout:b"])] = .ok v ∧
      ∀ dataset, (v.validate english dataset).result ≠ .ok () ∧
        ∀ message, (v.validate english dataset).result ≠ .error (.invalidRule message) := by
  intro english standard
  have htells : english.Tells .ruleMustBeNonEmpty 0 := Wording.bundled_tells .ruleMustBeNonEmpty
  obtain ⟨-, htold, -, -⟩ := declaration_defects english standard [] [("a", [.text " : x"])]
  obtain ⟨hmade, -, -, hall⟩ := declaration_defects english standard []
    [("a", [.text "string"]), ("b", [.text "requiredWithout:b"])]
  constructor
  · refine (htold htells).mpr ⟨"a", _, " : x", List.mem_cons_self, List.mem_cons_self, ?_⟩
    decide
  · have hnamed : ¬ Declarations.HasNameless
        [("a", [.text "string"]), ("b", [.text "requiredWithout:b"])] := by
      rintro ⟨field, definitions, rule, hdeclared, hrule, hblank⟩
      simp only [List.mem_cons, List.not_mem_nil, or_false, Prod.mk.injEq] at hdeclared
      rcases hdeclared with ⟨rfl, rfl⟩ | ⟨rfl, rfl⟩ <;>
        · obtain rfl := Definition.text.inj (List.mem_singleton.mp hrule)
          revert hblank
          decide
    obtain ⟨v, hv⟩ := hmade.mpr hnamed
    obtain ⟨hlookup, hpartner⟩ := hall v hv
    refine ⟨v, hv, fun dataset => ⟨(hpartner ?_ english dataset).1, fun message =>
      (hlookup ?_ ?_ english dataset message).1⟩⟩
    · exact ⟨"b", [.text "requiredWithout:b"], "requiredWithout:b", some "b", by simp, by simp,
        by decide, .inr rfl⟩
    · intro name rule hmem
      obtain ⟨declared, hdeclared, heq⟩ := Registry.mem_ofRules hmem
      rw [List.append_nil] at hdeclared
      obtain ⟨builtin, -, rfl⟩ := List.mem_map.mp hdeclared
      cases heq
    · rintro field definitions p hdeclared hp
      simp only [List.mem_cons, List.not_mem_nil, or_false, Prod.mk.injEq] at hdeclared
      rcases hdeclared with ⟨rfl, rfl⟩ | ⟨rfl, rfl⟩ <;> cases List.mem_singleton.mp hp

/-- In a language without texts a missing rule name cannot be told, so it is not what the
declarations fail with. -/
theorem not_invalidRule_untold :
    ¬ ∀ (construction : Wording) (registry : Registry) (messages : Entries Text)
      (declarations : Declarations),
      (∃ message, ofDeclarations construction registry messages declarations =
        .error (.invalidRule message)) ↔ declarations.HasNameless := by
  intro h
  obtain ⟨message, hended⟩ := (h (.bundled "de") (.standard (.standard 2025)) []
    [("a", [.text " : x"])]).mpr
      ⟨"a", [.text " : x"], " : x", List.mem_cons_self, List.mem_cons_self, by decide⟩
  have hmissing := Wording.bundled_say_of_ne (show Text.ofString "de" ≠ Phrase.bundledLanguage by
    decide) .ruleMustBeNonEmpty []
  obtain ⟨-, ⟨text, hsay, -⟩ | hfailure⟩ := ofDeclarations_eq_error hended
  · rw [hmissing] at hsay
    cases hsay
  · rw [hmissing] at hfailure
    cases hfailure

end Validator

end FieldValidation
