import FieldValidation.Proofs.Rule.Declared
import FieldValidation.Proofs.Validator.FieldCheck

/-!
# The shape of a verdict

The verdict on a field depends on its rules only by their shape: the value rules in their order,
whether the field is asked for, whether null may pass, and the partners in their order. Where the
rules about presence stand among the others, and how often, does not count. A field is checked by
some rules and further value rules as by the first alone, and if they pass by the further ones: no
failure is lost to a rule that is added.

## Main definitions

* `SameShape`: two lists of declared rules that differ only in where the rules about presence stand
* `Validator.seen?`: the value that value rules are run on

## Main results

* `Validator.checkField_congr_rules`: the check depends on the shape of the rules
* `Validator.runRules_append`, `Validator.checkField_append`: the check by rules that are added to
* `Validator.checkField_shape`: the verdict by the shape of what is declared
-/

namespace FieldValidation

/-! ## What the presence of a field depends on -/

/-- Of rules that name partners only the parameters count. -/
theorem mapM_partner (field : Option FieldId) (rules : List FieldRule) :
    rules.mapM (FieldRule.partner field) =
      (rules.map FieldRule.parameter).mapM fun parameter =>
        (FieldRule.named ⟨[], parameter, none⟩).partner field := by
  rw [List.mapM_map]
  rfl

/-- What is asked of the presence of a field depends on whether it is required and on the
parameters that name its partners. -/
theorem Constraints.ofRules_congr {field : Option FieldId} {rules rules' : List FieldRule}
    (hrequired : rules.any FieldRule.isRequired = rules'.any FieldRule.isRequired)
    (hpartners : (rules.filter FieldRule.namesPartner).map FieldRule.parameter =
      (rules'.filter FieldRule.namesPartner).map FieldRule.parameter) :
    ofRules field rules = ofRules field rules' := by
  unfold ofRules
  rw [mapM_partner, mapM_partner, hpartners, hrequired]

/-- Value rules ask nothing of presence. -/
theorem Constraints.ofRules_append {field : Option FieldId} (rules : List FieldRule)
    {added : List FieldRule} (hadded : ∀ rule ∈ added, rule.isRequirement = false) :
    ofRules field (rules ++ added) = ofRules field rules := by
  have hnone : ∀ rule ∈ added, rule.isRequired = false ∧ rule.namesPartner = false :=
    fun rule hmem => Bool.or_eq_false_iff.mp (hadded rule hmem)
  apply ofRules_congr
  · have hrequired : added.any FieldRule.isRequired = false :=
      List.any_eq_false.mpr fun rule hmem => by simp [hnone rule hmem]
    rw [List.any_append, hrequired, Bool.or_false]
  · have hpartners : added.filter FieldRule.namesPartner = [] :=
      List.filter_eq_nil_iff.mpr fun rule hmem => by simp [hnone rule hmem]
    rw [List.filter_append, hpartners, List.append_nil]

namespace Validator

variable {v : Validator} {wording : Wording} {dataset : Value} {field : Text}
  {rules rules' added : List FieldRule}

/-! ## Running value rules -/

/-- The run of value rules depends on those that do more than let null pass. -/
theorem runRules_congr
    (h : rules.filter (!·.isNullable) = rules'.filter (!·.isNullable)) (registry : Registry)
    (value : Value) :
    runRules registry wording field value rules = runRules registry wording field value rules' := by
  have hrun := runRules_rulesRun registry wording field value rules'
  rw [← h] at hrun
  exact hrun.runRules_eq

/-- Rules that are added are run after the others have passed. -/
theorem runRules_append (registry : Registry) (value : Value) :
    runRules registry wording field value (rules ++ added) =
      runRules registry wording field value rules >>= fun
        | some failure => pure (some failure)
        | none => runRules registry wording field value added := by
  induction rules with
  | nil => rfl
  | cons rule rest ih =>
    rw [List.cons_append]
    cases hnull : rule.isNullable with
    | true => simpa [runRules, hnull] using ih
    | false =>
      cases hrun : rule.validate registry wording field value with
      | ok _ =>
        simp only [runRules, hnull, hrun, ih]
        generalize runRules registry wording field value rest = others
        obtain ⟨result, ran⟩ := others
        rcases result with failure | _ | failure <;> rfl
      | error failure =>
        simp only [runRules, hnull, hrun]
        cases failure <;> rfl

/-! ## Checking a field -/

/-- The check of a field depends on its rules by what they ask of presence, by whether null may
pass, and by the value rules. -/
theorem checkField_congr_rules
    (hasked : Constraints.ofRules (some field) rules = Constraints.ofRules (some field) rules')
    (hnull : rules.any FieldRule.isNullable = rules'.any FieldRule.isNullable)
    (hruns : (valueRules rules).filter (!·.isNullable) =
      (valueRules rules').filter (!·.isNullable)) :
    v.checkField wording dataset field rules = v.checkField wording dataset field rules' := by
  have hrequirement : Requirement.ofRules wording field rules dataset.hasField =
      Requirement.ofRules wording field rules' dataset.hasField := by
    unfold Requirement.ofRules
    rw [hasked]
  have hcheck := v.checkField_fieldCheck wording dataset field rules'
  generalize v.checkField wording dataset field rules' = check at hcheck ⊢
  apply FieldCheck.checkField_eq
  cases hcheck with
  | defective hrules => exact .defective (hrequirement.trans hrules)
  | wordless hrules hrefusal => exact .wordless (hrequirement.trans hrules) hrefusal
  | refused hrules hrefusal => exact .refused (hrequirement.trans hrules) hrefusal
  | absent hrules hvalid hlookup => exact .absent (hrequirement.trans hrules) hvalid hlookup
  | null hrules hvalid hlookup hany =>
    exact .null (hrequirement.trans hrules) hvalid hlookup (hnull.trans hany)
  | ran hrules hvalid hlookup hany =>
    rw [← runRules_congr hruns]
    exact .ran (hrequirement.trans hrules) hvalid hlookup fun hvalue => hnull.trans (hany hvalue)

/-- The value that the value rules of a field are run on once its presence is found valid: none if
the field is absent, and none if its value is null and may be. -/
def seen? (dataset : Value) (field : Text) (rules : List FieldRule) : Option Value :=
  match dataset.lookup field, rules.any FieldRule.isNullable with
  | some .null, true => none
  | value?, _ => value?

/-- A field is checked by rules and further value rules as by the former, and after they have
passed the further ones are run on what the former have seen. -/
theorem checkField_append (hrequirement : ∀ rule ∈ added, rule.isRequirement = false)
    (hnullable : ∀ rule ∈ added, rule.isNullable = false) :
    v.checkField wording dataset field (rules ++ added) =
      v.checkField wording dataset field rules >>= fun
        | some failure => pure (some failure)
        | none =>
          match seen? dataset field rules with
          | some value => runRules v.registry wording field value added
          | none => pure none := by
  have hasked : Requirement.ofRules wording field (rules ++ added) dataset.hasField =
      Requirement.ofRules wording field rules dataset.hasField := by
    unfold Requirement.ofRules
    rw [Constraints.ofRules_append rules hrequirement]
  have hany : (rules ++ added).any FieldRule.isNullable = rules.any FieldRule.isNullable := by
    have hnone : added.any FieldRule.isNullable = false :=
      List.any_eq_false.mpr fun rule hmem => by simp [hnullable rule hmem]
    rw [List.any_append, hnone, Bool.or_false]
  have hvalues : valueRules (rules ++ added) = valueRules rules ++ added := by
    have hall : valueRules added = added :=
      List.filter_eq_self.mpr fun rule hmem => by simp [hrequirement rule hmem]
    conv => rhs; rw [← hall]
    exact List.filter_append rules added
  have hcheck := v.checkField_fieldCheck wording dataset field rules
  generalize v.checkField wording dataset field rules = check at hcheck ⊢
  cases hcheck with
  | defective hrules => exact (FieldCheck.defective (hasked.trans hrules)).checkField_eq
  | wordless hrules hrefusal =>
    exact (FieldCheck.wordless (hasked.trans hrules) hrefusal).checkField_eq
  | refused hrules hrefusal =>
    exact (FieldCheck.refused (hasked.trans hrules) hrefusal).checkField_eq
  | absent hrules hvalid hlookup =>
    rw [(FieldCheck.absent (hasked.trans hrules) hvalid hlookup).checkField_eq]
    simp only [seen?, hlookup]
    rfl
  | null hrules hvalid hlookup hnull =>
    rw [(FieldCheck.null (hasked.trans hrules) hvalid hlookup (hany.trans hnull)).checkField_eq]
    simp only [seen?, hlookup, hnull]
    rfl
  | @ran r value hrules hvalid hlookup hnull =>
    have hseen : seen? dataset field rules = some value := by
      unfold seen?
      rw [hlookup]
      split
      · next hvalue hany => exact absurd (hnull (Option.some.inj hvalue)) (by simp [hany])
      · rfl
    rw [(FieldCheck.ran (hasked.trans hrules) hvalid hlookup
      fun hvalue => hany.trans (hnull hvalue)).checkField_eq, hvalues, runRules_append, hseen]

end Validator

/-! ## The shape of what is declared -/

/-- Two lists of declared rules have the same value rules in the same order, and ask the same of
presence: the rules for that may stand elsewhere, and be repeated. -/
structure SameShape (declared declared' : List Declared) : Prop where
  values : declared.filter Declared.isValueRule = declared'.filter Declared.isValueRule
  required : declared.any Declared.isRequired = declared'.any Declared.isRequired
  nullable : declared.any Declared.isNullable = declared'.any Declared.isNullable
  partners : (declared.filter Declared.namesPartner).map Declared.parameter =
    (declared'.filter Declared.namesPartner).map Declared.parameter

namespace Validator

variable {v : Validator} {wording : Wording} {dataset : Value} {field : Text}

theorem checkField_of_sameShape {definitions definitions' : List Definition}
    (h : SameShape (declaredRules definitions) (declaredRules definitions')) :
    v.checkField wording dataset field
        ((declaredRules definitions).map (Declared.rule v.messages field)) =
      v.checkField wording dataset field
        ((declaredRules definitions').map (Declared.rule v.messages field)) := by
  apply checkField_congr_rules
  · apply Constraints.ofRules_congr
    · rw [any_isRequired_rules, any_isRequired_rules, h.required]
    · rw [partner_parameters, partner_parameters, h.partners]
  · rw [any_isNullable_rules, any_isNullable_rules, h.nullable]
  · rw [runnable_rules, runnable_rules, h.values]

/-- The verdict on a field, and the runs it takes, depend on the shape of the declared rules only.
Value rules that are declared after others do not change a verdict that is not to pass; where the
others have passed, the verdict is that of the further rules on the value that the others were run
on, and without such a value the field passes as before. -/
theorem checkField_shape (v : Validator) (wording : Wording) (field : Text) :
    (∀ (definitions definitions' : List Definition) (rules rules' : List FieldRule),
      definitions.mapM (Definition.compile wording v.messages field) = .ok rules →
      definitions'.mapM (Definition.compile wording v.messages field) = .ok rules' →
      SameShape (declaredRules definitions) (declaredRules definitions') →
      ∀ dataset, v.checkField wording dataset field rules =
        v.checkField wording dataset field rules') ∧
    ∀ definitions further : List Definition,
      (∀ definition ∈ further, ∃ d, definition.read? = some d ∧ d.isValueRule = true) →
      (∀ failure,
        definitions.mapM (Definition.compile wording v.messages field) = .error failure →
        (definitions ++ further).mapM (Definition.compile wording v.messages field) =
          .error failure) ∧
      ∀ rules, definitions.mapM (Definition.compile wording v.messages field) = .ok rules →
        ∃ added, further.mapM (Definition.compile wording v.messages field) = .ok added ∧
          (definitions ++ further).mapM (Definition.compile wording v.messages field) =
            .ok (rules ++ added) ∧
          ∀ dataset,
            ((v.checkField wording dataset field rules).result ≠ .ok none →
              v.checkField wording dataset field (rules ++ added) =
                v.checkField wording dataset field rules) ∧
            ((v.checkField wording dataset field rules).result = .ok none →
              (v.checkField wording dataset field (rules ++ added)).result =
                match seen? dataset field rules with
                | some value => (runRules v.registry wording field value added).result
                | none => .ok none) := by
  refine ⟨?_, fun definitions further hfurther => ⟨?_, ?_⟩⟩
  · intro definitions definitions' rules rules' hrules hrules' hshape dataset
    rw [rules_of_compile hrules, rules_of_compile hrules']
    exact checkField_of_sameShape hshape
  · intro failure hfailure
    rw [List.mapM_append, hfailure]
    rfl
  intro rules hrules
  have hadded : further.mapM (Definition.compile wording v.messages field) =
      .ok ((declaredRules further).map (Declared.rule v.messages field)) :=
    compile_of_declared fun definition hmem => (hfurther definition hmem).imp fun d hd => hd.1
  refine ⟨_, hadded, by rw [List.mapM_append, hrules, hadded]; rfl, fun dataset => ?_⟩
  have hvalues : ∀ rule ∈ (declaredRules further).map (Declared.rule v.messages field),
      rule.isRequirement = false ∧ rule.isNullable = false :=
    fun rule => not_isRequirement_of_mem_rules v.messages field hfurther
  rw [checkField_append (fun rule hmem => (hvalues rule hmem).1)
    fun rule hmem => (hvalues rule hmem).2]
  generalize v.checkField wording dataset field rules = check
  obtain ⟨result, ran⟩ := check
  rcases result with failure | _ | failure
  · exact ⟨fun _ => rfl, nofun⟩
  · refine ⟨fun hne => absurd rfl hne, fun _ => ?_⟩
    cases seen? dataset field rules <;> rfl
  · exact ⟨fun _ => congrArg (Traced.mk _) (List.append_nil ran), nofun⟩

/-- Declared rules of an age: it is asked for, and is 18 or more unless it is null. -/
def adultRules : List FieldRule :=
  [.named ⟨"required", .null, none⟩, .named ⟨"min", .text "18", none⟩,
    .named ⟨"nullable", .null, none⟩]

/-- A validator with the rules that come with the library. -/
def ages : Validator := ⟨[], [], .standard (.standard 2025)⟩

/-- An age is asked for once or twice, before or after its bound: the check is the same. A further
bound does not change what is said of a child, and decides on somebody the first lets pass. -/
theorem checkField_shape_age :
    ∃ rules' added : List FieldRule,
      ([.text "required", .text "min:18", .text "nullable"] : List Definition).mapM
          (Definition.compile (.bundled "en") [] "age") = .ok adultRules ∧
        ([.text "Nullable: yes", .text "min:18", .text "required", .text " REQUIRED "] :
          List Definition).mapM (Definition.compile (.bundled "en") [] "age") = .ok rules' ∧
        ([.text "required", .text "min:18", .text "nullable", .text "max:99"] :
          List Definition).mapM (Definition.compile (.bundled "en") [] "age") =
            .ok (adultRules ++ added) ∧
        (∀ dataset, ages.checkField (.bundled "en") dataset "age" adultRules =
          ages.checkField (.bundled "en") dataset "age" rules') ∧
        ages.checkField (.bundled "en") (.record [("age", .number (.ofNat 5))]) "age"
            (adultRules ++ added) =
          ages.checkField (.bundled "en") (.record [("age", .number (.ofNat 5))]) "age"
            adultRules ∧
        (ages.checkField (.bundled "en") (.record [("age", .number (.ofNat 120))]) "age"
            (adultRules ++ added)).result =
          (runRules ages.registry (.bundled "en") "age" (.number (.ofNat 120)) added).result := by
  obtain ⟨hshape, hfurther⟩ := checkField_shape ages (.bundled "en") "age"
  have hrequired : RuleSpec.parse? "required" = some ⟨"required", none⟩ := by decide +kernel
  have hrequired' : RuleSpec.parse? " REQUIRED " = some ⟨"required", none⟩ := by decide +kernel
  have hnullable : RuleSpec.parse? "nullable" = some ⟨"nullable", none⟩ := by decide +kernel
  have hnullable' : RuleSpec.parse? "Nullable: yes" = some ⟨"nullable", some "yes"⟩ := by
    decide +kernel
  have hmin : RuleSpec.parse? "min:18" = some ⟨"min", some "18"⟩ := by decide +kernel
  have hmax : RuleSpec.parse? "max:99" = some ⟨"max", some "99"⟩ := by decide +kernel
  have hrules : ([.text "required", .text "min:18", .text "nullable"] : List Definition).mapM
      (Definition.compile (.bundled "en") [] "age") = .ok adultRules := by
    simp only [List.mapM_cons, Definition.compile, hrequired, hmin, hnullable]
    rfl
  have hrules' : ([.text "Nullable: yes", .text "min:18", .text "required",
      .text " REQUIRED "] : List Definition).mapM (Definition.compile (.bundled "en") [] "age") =
        .ok [.named ⟨"nullable", .text "yes", none⟩, .named ⟨"min", .text "18", none⟩,
          .named ⟨"required", .null, none⟩, .named ⟨"required", .null, none⟩] := by
    simp only [List.mapM_cons, Definition.compile, hrequired, hrequired', hmin, hnullable']
    rfl
  have hsame : SameShape
      (declaredRules [.text "required", .text "min:18", .text "nullable"])
      (declaredRules
        [.text "Nullable: yes", .text "min:18", .text "required", .text " REQUIRED "]) := by
    simp only [declaredRules, List.filterMap_cons, List.filterMap_nil, Definition.read?,
      hrequired, hrequired', hmin, hnullable, hnullable', Option.map_some]
    refine ⟨?_, by decide +kernel, by decide +kernel, by decide +kernel⟩
    rw [List.filter_cons_of_neg (by decide +kernel), List.filter_cons_of_pos (by decide +kernel),
      List.filter_cons_of_neg (by decide +kernel), List.filter_cons_of_neg (by decide +kernel),
      List.filter_cons_of_pos (by decide +kernel), List.filter_cons_of_neg (by decide +kernel),
      List.filter_cons_of_neg (by decide +kernel)]
  have hvalue : ∀ definition ∈ ([.text "max:99"] : List Definition),
      ∃ d, definition.read? = some d ∧ d.isValueRule = true := by
    intro definition hmem
    obtain rfl := List.mem_singleton.mp hmem
    exact ⟨.named ⟨"max", some "99"⟩, by simp only [Definition.read?, hmax, Option.map_some],
      by decide +kernel⟩
  obtain ⟨added, -, hadded, hall⟩ := (hfurther _ _ hvalue).2 _ hrules
  have hchild : (ages.checkField (.bundled "en") (.record [("age", .number (.ofNat 5))]) "age"
      adultRules).result.toOption ≠ some none := by
    decide +kernel
  have hold : (ages.checkField (.bundled "en") (.record [("age", .number (.ofNat 120))]) "age"
      adultRules).result.toOption = some none := by
    decide +kernel
  have hseen : seen? (.record [("age", .number (.ofNat 120))]) "age" adultRules =
      some (.number (.ofNat 120)) :=
    rfl
  refine ⟨_, added, hrules, hrules', hadded, hshape _ _ _ _ hrules hrules' hsame,
    (hall _).1 fun hpass => hchild (by rw [hpass]; rfl), ?_⟩
  have hadult := (hall (.record [("age", .number (.ofNat 120))])).2
  rw [hseen] at hadult
  generalize (ages.checkField (.bundled "en") (.record [("age", .number (.ofNat 120))]) "age"
    adultRules).result = result at hold hadult
  cases result with
  | error failure => cases hold
  | ok verdict => exact hadult (congrArg Except.ok (Option.some.inj hold))

end Validator

end FieldValidation
