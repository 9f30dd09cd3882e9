import FieldValidation.Proofs.Failure.Kinds
import FieldValidation.Proofs.Sequence.Results
import FieldValidation.Proofs.Text.Lower
import FieldValidation.Requirement.Resolution
import FieldValidation.Validator.Basic

/-!
# Declared rules

A definition declares a rule: a predicate, or a named rule that its text is read as. The rule that
it is compiled to differs from the declared one only in the text that an application gives it, so
what a rule is about, the presence of the field or its value, is known from its declared name.

## Main definitions

* `Declared`: a rule as its definition declares it
* `Definition.read?`: the rule that a definition declares
* `declaredRules`: the rules that definitions declare

## Main results

* `compile_of_declared`, `rules_of_compile`: definitions are compiled to the rules they declare
* `Declared.isRequired_rule`, `Declared.namesPartner_rule`: a compiled rule is about what its
  declaration says
-/

namespace FieldValidation

/-- A rule as its definition declares it: by name, or a predicate. -/
inductive Declared where
  | named (spec : RuleSpec)
  | predicate (p : Predicate)

/-- The rule that a definition declares, unless its text has no rule name. -/
def Definition.read? : Definition → Option Declared
  | .text rule => (RuleSpec.parse? rule).map .named
  | .predicate p => some (.predicate p)

/-- The rules that definitions declare, in order. -/
def declaredRules (definitions : List Definition) : List Declared :=
  definitions.filterMap Definition.read?

namespace Declared

/-- The name of a rule; predicates have the empty one. -/
def name : Declared → Text
  | .named spec => spec.name
  | .predicate _ => []

/-- The parameter of a rule, if it has one. -/
def parameter : Declared → Option Text
  | .named spec => spec.parameter
  | .predicate _ => none

/-- Whether a rule is the one that asks for the field. -/
def isRequired (d : Declared) : Bool := d.name = requiredName

/-- Whether a rule names a partner. -/
def namesPartner (d : Declared) : Bool := d.name = requiredWithoutName

/-- Whether a rule is the one that lets null pass. -/
def isNullable (d : Declared) : Bool := d.name = nullableName

/-- Whether a rule looks at the value of the field. -/
def isValueRule (d : Declared) : Bool := !(d.isRequired || d.namesPartner || d.isNullable)

/-- The rule of a field, with the text that an application gives it. -/
def rule (messages : Entries Text) (field : Text) : Declared → FieldRule
  | .named ⟨name, parameter⟩ =>
    .named ⟨name, (parameter.map Value.text).getD .null, findMessage messages field name⟩
  | .predicate p => .predicate p

variable (messages : Entries Text) (field : Text)

@[simp] theorem name_rule (d : Declared) : (d.rule messages field).name = d.name := by
  cases d <;> rfl

theorem parameter_rule (d : Declared) :
    (d.rule messages field).parameter = (d.parameter.map Value.text).getD .null := by
  cases d <;> rfl

@[simp] theorem isNullable_rule (d : Declared) :
    (d.rule messages field).isNullable = d.isNullable := by
  simp [FieldRule.isNullable, isNullable]

/-- A name is declared in lower case. -/
theorem toLower_name {definition : Definition} {d : Declared} (h : definition.read? = some d) :
    Text.toLower d.name = d.name := by
  cases definition with
  | predicate p =>
    obtain rfl := Option.some.inj h
    rfl
  | text rule =>
    obtain ⟨spec, hspec, rfl⟩ := Option.map_eq_some_iff.mp h
    unfold RuleSpec.parse? at hspec
    dsimp only at hspec
    split at hspec
    · cases hspec
    · obtain rfl := Option.some.inj hspec
      exact Text.toLower_toLower _

variable {d : Declared}

/-- A compiled rule asks for the field where its declaration does. -/
theorem isRequired_rule (h : Text.toLower d.name = d.name) :
    (d.rule messages field).isRequired = d.isRequired := by
  simp [FieldRule.isRequired, isRequired, h]

/-- A compiled rule names a partner where its declaration does. -/
theorem namesPartner_rule (h : Text.toLower d.name = d.name) :
    (d.rule messages field).namesPartner = d.namesPartner := by
  simp [FieldRule.namesPartner, namesPartner, h]

/-- A compiled rule looks at the value where its declaration does. -/
theorem isValueRule_rule (h : Text.toLower d.name = d.name) :
    (!(d.rule messages field).isRequirement && !(d.rule messages field).isNullable) =
      d.isValueRule := by
  simp [isValueRule, FieldRule.isRequirement, isRequired_rule, namesPartner_rule, h]

end Declared

/-! ## Compiling -/

section Compiling

variable {wording : Wording} {messages : Entries Text} {field : Text}

theorem Definition.compile_of_read? {definition : Definition} {d : Declared}
    (h : definition.read? = some d) :
    definition.compile wording messages field = .ok (d.rule messages field) := by
  cases definition with
  | predicate p =>
    obtain rfl := Option.some.inj h
    rfl
  | text rule =>
    obtain ⟨spec, hspec, rfl⟩ := Option.map_eq_some_iff.mp h
    simp only [compile, hspec]
    rfl

/-- What is compiled declares a rule. -/
theorem Definition.exists_of_compile {definition : Definition} {compiled : FieldRule}
    (h : definition.compile wording messages field = .ok compiled) :
    ∃ d, definition.read? = some d := by
  cases definition with
  | predicate p => exact ⟨_, rfl⟩
  | text rule =>
    cases hspec : RuleSpec.parse? rule with
    | some spec => exact ⟨.named spec, by rw [read?, hspec]; rfl⟩
    | none =>
      simp only [compile, hspec] at h
      exact absurd h Wording.tell_ne_ok

/-- Definitions that each declare a rule are compiled to the rules they declare. -/
theorem compile_of_declared {definitions : List Definition}
    (h : ∀ definition ∈ definitions, ∃ d, definition.read? = some d) :
    definitions.mapM (Definition.compile wording messages field) =
      .ok ((declaredRules definitions).map (Declared.rule messages field)) := by
  induction definitions with
  | nil => rfl
  | cons definition rest ih =>
    obtain ⟨⟨d, hd⟩, hrest⟩ := List.forall_mem_cons.mp h
    have hcons : declaredRules (definition :: rest) = d :: declaredRules rest :=
      List.filterMap_cons_some hd
    rw [List.mapM_cons, Definition.compile_of_read? hd, ih hrest, hcons]
    rfl

/-- What definitions are compiled to is the rules they declare. -/
theorem rules_of_compile {definitions : List Definition} {rules : List FieldRule}
    (h : definitions.mapM (Definition.compile wording messages field) = .ok rules) :
    rules = (declaredRules definitions).map (Declared.rule messages field) := by
  have hdeclared : ∀ definition ∈ definitions, ∃ d, definition.read? = some d := by
    intro definition hmem
    obtain ⟨compiled, hcompiled⟩ := exists_of_mapM_eq_ok h hmem
    exact Definition.exists_of_compile hcompiled
  exact Except.ok.inj (h.symm.trans (compile_of_declared hdeclared))

end Compiling

/-! ## What compiled rules are about -/

section About

variable {definitions : List Definition}

theorem toLower_name_of_mem {d : Declared} (h : d ∈ declaredRules definitions) :
    Text.toLower d.name = d.name := by
  obtain ⟨definition, -, hd⟩ := List.mem_filterMap.mp h
  exact Declared.toLower_name hd

variable (messages : Entries Text) (field : Text)

theorem any_isNullable_rules (declared : List Declared) :
    (declared.map (Declared.rule messages field)).any FieldRule.isNullable =
      declared.any Declared.isNullable := by
  rw [List.any_map]
  exact List.any_congr rfl fun d => Declared.isNullable_rule messages field d

theorem any_isRequired_rules :
    ((declaredRules definitions).map (Declared.rule messages field)).any FieldRule.isRequired =
      (declaredRules definitions).any Declared.isRequired := by
  rw [List.any_map, Bool.eq_iff_iff, List.any_eq_true, List.any_eq_true]
  refine exists_congr fun d => and_congr_right fun hmem => ?_
  rw [Function.comp_apply, Declared.isRequired_rule messages field (toLower_name_of_mem hmem)]

/-- The parameters of the rules that name a partner. -/
theorem partner_parameters :
    (((declaredRules definitions).map (Declared.rule messages field)).filter
        FieldRule.namesPartner).map FieldRule.parameter =
      (((declaredRules definitions).filter Declared.namesPartner).map Declared.parameter).map
        fun parameter => (parameter.map Value.text).getD .null := by
  rw [List.filter_map, List.map_map, List.map_map]
  have hfilter : (declaredRules definitions).filter
      (FieldRule.namesPartner ∘ Declared.rule messages field) =
        (declaredRules definitions).filter Declared.namesPartner :=
    List.filter_congr fun d hmem =>
      Declared.namesPartner_rule messages field (toLower_name_of_mem hmem)
  rw [hfilter]
  exact List.map_congr_left fun d _ => Declared.parameter_rule messages field d

/-- The rules that are run on a value. -/
theorem runnable_rules :
    (valueRules ((declaredRules definitions).map (Declared.rule messages field))).filter
        (!·.isNullable) =
      ((declaredRules definitions).filter Declared.isValueRule).map
        (Declared.rule messages field) := by
  rw [valueRules, List.filter_filter, List.filter_map]
  refine congrArg _ (List.filter_congr fun d hmem => ?_)
  rw [Function.comp_apply, Bool.and_comm]
  exact Declared.isValueRule_rule messages field (toLower_name_of_mem hmem)

/-- What value rules are compiled to asks nothing of presence, and does not let null pass. -/
theorem not_isRequirement_of_mem_rules
    (h : ∀ definition ∈ definitions, ∃ d, definition.read? = some d ∧ d.isValueRule = true)
    {rule : FieldRule}
    (hmem : rule ∈ (declaredRules definitions).map (Declared.rule messages field)) :
    rule.isRequirement = false ∧ rule.isNullable = false := by
  obtain ⟨d, hd, rfl⟩ := List.mem_map.mp hmem
  obtain ⟨definition, hdefinition, hread⟩ := List.mem_filterMap.mp hd
  obtain ⟨d', hread', hvalue⟩ := h definition hdefinition
  obtain rfl := Option.some.inj (hread'.symm.trans hread)
  rw [← Declared.isValueRule_rule messages field (toLower_name_of_mem hd)] at hvalue
  simpa using hvalue

end About

end FieldValidation
