import FieldValidation.Proofs.Rule.Acceptance
import FieldValidation.Proofs.Validator.Compilation
import FieldValidation.Proofs.Validator.Presence

/-!
# Which datasets pass

A dataset passes where nothing is wrong with any of its fields, and what is wrong with a field is
settled without words: its presence is resolved by the constraints on it, and its value is let pass
by rules that have come to a verdict before they tell it. So the words that are looked for
afterwards, those of the catalog and those of the application, have no part in whether it passes.

## Main definitions

* `FieldPasses`: nothing is wrong with a field
* `Validator.Enforces`: a validator lets nothing pass against the definitions of a field
* `TextSettings`: all that texts are taken from
* `TextSettings.Pass`: declarations let a dataset pass under such settings

## Main results

* `Validator.verdict_eq_ok_none_iff`: a field passes where nothing is wrong with it
* `Validator.enforces_of_mem`: a validator enforces its declarations
* `fieldPasses_worded`: the texts of an application have no part in that
* `TextSettings.pass_iff`: what passes, without any texts
-/

namespace FieldValidation

/-- The wording without a text for anything. -/
def Wording.silent : Wording := ⟨[], []⟩

/-- Nothing is wrong with a field of a dataset. Its presence is as its rules ask, and its value, if
it has one, is let pass by all value rules, unless it is null and may be. -/
structure FieldPasses (registry : Registry) (dataset : Value) (entry : Text × List FieldRule) :
    Prop where
  presence : ∃ constraints, Constraints.ofRules (some (.name entry.1)) entry.2 = .ok constraints ∧
    (Requirement.ofConstraints entry.1 constraints dataset.hasField).outcome = .valid
  value : ∀ value, dataset.lookup entry.1 = some value →
    (value = .null → entry.2.any FieldRule.isNullable = false) →
    ∀ rule ∈ valueRules entry.2, rule.isNullable = false → rule.Accepts registry entry.1 value

/-! ## The verdict on a field -/

section Rules

variable {registry : Registry} {wording : Wording} {field : Text} {value : Value}
  {rules : List FieldRule}

/-- The value rules of a field find nothing wrong where each of them lets the value pass. -/
theorem runRules_eq_ok_none_iff :
    (Validator.runRules registry wording field value rules).result = .ok none ↔
      ∀ rule ∈ rules, rule.isNullable = false → rule.Accepts registry field value := by
  have hrun := Validator.runRules_rulesRun registry wording field value rules
  have hmem (rule : FieldRule) :
      rule ∈ rules.filter (!·.isNullable) ↔ rule ∈ rules ∧ rule.isNullable = false := by
    rw [List.mem_filter, Bool.not_eq_true']
  generalize Validator.runRules registry wording field value rules = run at hrun ⊢
  generalize rules.filter (!·.isNullable) = runs at hrun hmem
  cases hrun with
  | passed hpass =>
    refine ⟨fun _ rule hrule hnullable => ?_, fun _ => rfl⟩
    exact FieldRule.validate_eq_ok_iff.mp (hpass rule ((hmem rule).mpr ⟨hrule, hnullable⟩))
  | @failed before rule later failure _ hfail =>
    constructor
    · cases failure <;> exact nofun
    · intro h
      obtain ⟨hrule, hnullable⟩ := (hmem rule).mp (by simp)
      rw [FieldRule.validate_eq_ok_iff.mpr (h rule hrule hnullable)] at hfail
      cases hfail

end Rules

namespace Requirement

variable {wording : Wording} {field : FieldId} {rules : List FieldRule}
  {present : FieldId → Bool}

theorem ofRules_eq_ok_iff {r : Requirement} :
    ofRules wording field rules present = .ok r ↔
      ∃ constraints, Constraints.ofRules (some field) rules = .ok constraints ∧
        r = ofConstraints field constraints present := by
  constructor
  · exact ofRules_eq_ok
  · rintro ⟨constraints, hconstraints, rfl⟩
    unfold ofRules
    rw [hconstraints]

end Requirement

namespace Validator

variable {v : Validator} {wording : Wording} {dataset : Value} {entry : Text × List FieldRule}

/-- A field passes where nothing is wrong with it. -/
theorem verdict_eq_ok_none_iff :
    v.verdict wording dataset entry = .ok none ↔ FieldPasses v.registry dataset entry := by
  have hcheck := v.checkField_fieldCheck wording dataset entry.1 entry.2
  unfold verdict
  generalize v.checkField wording dataset entry.1 entry.2 = check at hcheck ⊢
  cases hcheck with
  | defective hrules =>
    refine ⟨nofun, fun h => ?_⟩
    obtain ⟨constraints, hconstraints, -⟩ := h.presence
    rw [Requirement.ofRules_eq_ok_iff.mpr ⟨constraints, hconstraints, rfl⟩] at hrules
    cases hrules
  | wordless hrules hrefusal | refused hrules hrefusal =>
    refine ⟨nofun, fun h => ?_⟩
    obtain ⟨constraints, hconstraints, hvalid⟩ := h.presence
    obtain ⟨_, hsame, rfl⟩ := Requirement.ofRules_eq_ok_iff.mp hrules
    obtain rfl := Except.ok.inj (hconstraints.symm.trans hsame)
    rw [Requirement.refusal?_eq_none_iff.mpr hvalid] at hrefusal
    cases hrefusal
  | absent hrules hvalid hlookup =>
    obtain ⟨constraints, hconstraints, rfl⟩ := Requirement.ofRules_eq_ok_iff.mp hrules
    refine ⟨fun _ => ⟨⟨constraints, hconstraints, hvalid⟩, fun value hvalue => ?_⟩, fun _ => rfl⟩
    rw [hlookup] at hvalue
    cases hvalue
  | null hrules hvalid hlookup hnull =>
    obtain ⟨constraints, hconstraints, rfl⟩ := Requirement.ofRules_eq_ok_iff.mp hrules
    refine ⟨fun _ => ⟨⟨constraints, hconstraints, hvalid⟩, fun value hvalue hnone => ?_⟩,
      fun _ => rfl⟩
    obtain rfl := Option.some.inj (hlookup.symm.trans hvalue)
    rw [hnone rfl] at hnull
    cases hnull
  | @ran r value hrules hvalid hlookup hnull =>
    obtain ⟨constraints, hconstraints, rfl⟩ := Requirement.ofRules_eq_ok_iff.mp hrules
    rw [runRules_eq_ok_none_iff]
    constructor
    · intro h
      refine ⟨⟨constraints, hconstraints, hvalid⟩, fun value' hvalue _ => ?_⟩
      obtain rfl := Option.some.inj (hlookup.symm.trans hvalue)
      exact h
    · exact fun h => h.value value hlookup hnull

/-- A dataset passes where nothing is wrong with any field. -/
theorem validate_eq_ok_iff_fieldPasses :
    (v.validate wording dataset).result = .ok () ↔
      ∀ entry ∈ v.fields, FieldPasses v.registry dataset entry :=
  validate_eq_ok_iff.trans (forall₂_congr fun _ _ => verdict_eq_ok_none_iff)

end Validator

/-! ## What a validator enforces -/

/-- A validator enforces the definitions of a field: it has the rules that they declare, and lets
no dataset pass that has anything wrong by them. -/
def Validator.Enforces (v : Validator) (field : Text) (definitions : List Definition) : Prop :=
  ∃ rules, (field, rules) ∈ v.fields ∧
    List.Forall₂ (fun definition rule =>
      Definition.compile .silent v.messages field definition = .ok rule) definitions rules ∧
    ∀ wording dataset, (v.validate wording dataset).result = .ok () →
      FieldPasses v.registry dataset (field, rules)

/-- The validator that declarations make enforces them, field by field. -/
theorem Validator.enforces_of_mem {v : Validator} {wording : Wording} {registry : Registry}
    {messages : Entries Text} {declarations : Declarations}
    (h : ofDeclarations wording registry messages declarations = .ok v) {field : Text}
    {definitions : List Definition} (hmem : (field, definitions) ∈ declarations) :
    v.Enforces field definitions := by
  obtain ⟨fields, hcompile, rfl⟩ := ofDeclarations_eq_ok_iff.mp h
  have hsilent := compile_of_ok hcompile .silent
  obtain ⟨rules, hentry, hdefinitions⟩ := exists_rules_of_mem hsilent hmem
  exact ⟨rules, hentry, mapM_eq_ok_iff.mp hdefinitions, fun wording' dataset hpass =>
    validate_eq_ok_iff_fieldPasses.mp hpass _ hentry⟩

/-! ## The texts of an application -/

@[simp] theorem FieldRule.isNullable_worded (messages : Entries Text) (field : Text)
    (rule : FieldRule) : (rule.worded messages field).isNullable = rule.isNullable := by
  simp [isNullable]

theorem FieldRule.accepts_worded (messages : Entries Text) (text : Text) {registry : Registry}
    {field : FieldId} {value : Value} {rule : FieldRule} :
    (rule.worded messages text).Accepts registry field value ↔
      rule.Accepts registry field value := by
  cases rule <;> exact Iff.rfl

/-- What is wrong with a field is wrong with it whatever texts its rules have. -/
theorem fieldPasses_worded (messages : Entries Text) (text : Text) {registry : Registry}
    {dataset : Value} {field : Text} {rules : List FieldRule} :
    FieldPasses registry dataset (field, rules.map (FieldRule.worded messages text)) ↔
      FieldPasses registry dataset (field, rules) := by
  have hnullable : (rules.map (FieldRule.worded messages text)).any FieldRule.isNullable =
      rules.any FieldRule.isNullable :=
    any_map_worded _ _ _ (by simp)
  constructor
  · rintro ⟨hpresence, hvalue⟩
    simp only [Constraints.ofRules_worded, hnullable, valueRules_worded, List.forall_mem_map,
      FieldRule.isNullable_worded, FieldRule.accepts_worded] at hpresence hvalue
    exact ⟨hpresence, hvalue⟩
  · rintro ⟨hpresence, hvalue⟩
    constructor
    · simpa only [Constraints.ofRules_worded] using hpresence
    · simpa only [hnullable, valueRules_worded, List.forall_mem_map, FieldRule.isNullable_worded,
        FieldRule.accepts_worded] using hvalue

/-- All that texts are taken from: the texts of the application, and the wordings at the time when
a validator is made and when it is used. -/
structure TextSettings where
  messages : Entries Text
  construction : Wording
  wording : Wording

namespace TextSettings

/-- Declarations make a validator that lets a dataset pass. -/
def Pass (texts : TextSettings) (registry : Registry) (declarations : Declarations)
    (dataset : Value) : Prop :=
  ∃ v, Validator.ofDeclarations texts.construction registry texts.messages declarations = .ok v ∧
    (v.validate texts.wording dataset).result = .ok ()

variable {texts : TextSettings} {registry : Registry} {declarations : Declarations}
  {dataset : Value}

/-- The validator that declarations make has the rules compiled without texts, with the texts put
on. -/
theorem ofDeclarations_eq_ok_iff {v : Validator} :
    Validator.ofDeclarations texts.construction registry texts.messages declarations = .ok v ↔
      ∃ fields, compile .silent [] declarations = .ok fields ∧
        v = ⟨CompiledRules.worded texts.messages fields, texts.messages, registry⟩ := by
  unfold Validator.ofDeclarations
  rw [compile_worded]
  constructor
  · intro h
    cases hcompile : compile texts.construction [] declarations with
    | error failure => rw [hcompile] at h; cases h
    | ok fields =>
      rw [hcompile] at h
      exact ⟨fields, compile_of_ok hcompile _, (Except.ok.inj h).symm⟩
  · rintro ⟨fields, hcompile, rfl⟩
    rw [compile_of_ok hcompile texts.construction]
    rfl

/-- Declarations make a validator where they compile, and for that no texts are needed. -/
theorem exists_ofDeclarations_iff :
    (∃ v, Validator.ofDeclarations texts.construction registry texts.messages declarations =
      .ok v) ↔ ∃ fields, compile .silent [] declarations = .ok fields := by
  constructor
  · rintro ⟨v, hv⟩
    obtain ⟨fields, hcompile, -⟩ := ofDeclarations_eq_ok_iff.mp hv
    exact ⟨fields, hcompile⟩
  · rintro ⟨fields, hcompile⟩
    exact ⟨_, ofDeclarations_eq_ok_iff.mpr ⟨fields, hcompile, rfl⟩⟩

/-- What passes, without any texts. -/
theorem pass_iff :
    texts.Pass registry declarations dataset ↔
      ∃ fields, compile .silent [] declarations = .ok fields ∧
        ∀ entry ∈ fields, FieldPasses registry dataset entry := by
  unfold Pass
  simp only [ofDeclarations_eq_ok_iff, Validator.validate_eq_ok_iff_fieldPasses]
  have hworded (fields : CompiledRules) :
      (∀ entry ∈ CompiledRules.worded texts.messages fields,
          FieldPasses registry dataset entry) ↔
        ∀ entry ∈ fields, FieldPasses registry dataset entry := by
    unfold CompiledRules.worded
    rw [List.forall_mem_map]
    exact forall₂_congr fun _ _ => fieldPasses_worded _ _
  constructor
  · rintro ⟨_, ⟨fields, hcompile, rfl⟩, hpass⟩
    exact ⟨fields, hcompile, (hworded fields).mp hpass⟩
  · rintro ⟨fields, hcompile, hpass⟩
    exact ⟨_, ⟨fields, hcompile, rfl⟩, (hworded fields).mpr hpass⟩

end TextSettings

end FieldValidation
