import FieldValidation.Proofs.Rule.Reworded
import FieldValidation.Proofs.Sequence.Results
import FieldValidation.Validator.Basic

/-!
# Compiling with the texts of an application

The texts of an application are looked up while its declarations are compiled. They have no part in
what is compiled otherwise: the rules are those compiled without texts, with the texts put on. The
wording has no part in it at all: it tells why declarations do not compile, and nothing else.

## Main definitions

* `CompiledRules.worded`: compiled rules with the texts of an application

## Main results

* `fields_of_compile`: the compiled fields are the declared ones
* `exists_definitions_of_mem`, `exists_rules_of_mem`: each has the rules of its definitions
* `compile_of_ok`: what compiles compiles alike in any wording
* `Validator.ofDeclarations_eq_ok_iff`: the validator that declarations make
* `compile_worded`: compiling with texts is compiling without and putting them on
-/

namespace FieldValidation

/-- The rules of the fields with the texts of an application. -/
def CompiledRules.worded (messages : Entries Text) (fields : CompiledRules) : CompiledRules :=
  fields.map fun entry => (entry.1, entry.2.map (FieldRule.worded messages entry.1))

/-- The compiled fields are the declared ones, in their order. -/
theorem fields_of_compile {wording : Wording} {messages : Entries Text}
    {declarations : Declarations} {fields : CompiledRules}
    (h : compile wording messages declarations = .ok fields) :
    fields.map Prod.fst = declarations.map Prod.fst := by
  refine map_eq_of_mapM ?_ h
  rintro ⟨field, definitions⟩ entry hentry
  obtain ⟨rules, -, hpair⟩ := bind_eq_ok_iff.mp hentry
  cases hpair
  rfl

section Members

variable {wording : Wording} {messages : Entries Text} {declarations : Declarations}
  {fields : CompiledRules} {field : Text}

/-- The rules of a compiled field are what the definitions of a declared one are compiled to. -/
theorem exists_definitions_of_mem (h : compile wording messages declarations = .ok fields)
    {rules : List FieldRule} (hmem : (field, rules) ∈ fields) :
    ∃ definitions, (field, definitions) ∈ declarations ∧
      definitions.mapM (Definition.compile wording messages field) = .ok rules := by
  obtain ⟨⟨declared, definitions⟩, hdeclared, hcompiled⟩ := exists_of_mem_mapM h hmem
  obtain ⟨compiled, hrules, hpair⟩ := bind_eq_ok_iff.mp hcompiled
  cases hpair
  exact ⟨definitions, hdeclared, hrules⟩

/-- The definitions of a declared field are compiled to the rules of a compiled one. -/
theorem exists_rules_of_mem (h : compile wording messages declarations = .ok fields)
    {definitions : List Definition} (hmem : (field, definitions) ∈ declarations) :
    ∃ rules, (field, rules) ∈ fields ∧
      definitions.mapM (Definition.compile wording messages field) = .ok rules := by
  obtain ⟨⟨_, rules⟩, hentry, hcompiled⟩ := exists_mem_of_mapM_eq_ok h hmem
  obtain ⟨_, hrules, hpair⟩ := bind_eq_ok_iff.mp hcompiled
  cases hpair
  exact ⟨rules, hentry, hrules⟩

end Members

/-- What compiles compiles alike in any wording. -/
theorem compile_of_ok {wording : Wording} {messages : Entries Text} {declarations : Declarations}
    {fields : CompiledRules} (h : compile wording messages declarations = .ok fields)
    (wording' : Wording) : compile wording' messages declarations = .ok fields := by
  have hdefinition (field : Text) (definition : Definition) (rule : FieldRule) :
      definition.compile wording messages field = .ok rule →
        definition.compile wording' messages field = .ok rule := by
    cases definition with
    | predicate p => exact id
    | text written =>
      unfold Definition.compile
      dsimp only
      split
      · exact id
      · exact fun hnone => absurd hnone Wording.tell_ne_ok
  refine mapM_eq_ok_of_imp ?_ h
  rintro ⟨field, definitions⟩ entry hentry
  obtain ⟨rules, hrules, hpair⟩ := bind_eq_ok_iff.mp hentry
  exact bind_eq_ok_iff.mpr ⟨rules, mapM_eq_ok_of_imp (hdefinition field) hrules, hpair⟩

/-- A validator is made where the declarations compile, with the rules that they compile to. -/
theorem Validator.ofDeclarations_eq_ok_iff {wording : Wording} {registry : Registry}
    {messages : Entries Text} {declarations : Declarations} {v : Validator} :
    ofDeclarations wording registry messages declarations = .ok v ↔
      ∃ fields, compile wording messages declarations = .ok fields ∧
        v = ⟨fields, messages, registry⟩ := by
  unfold ofDeclarations
  rw [bind_eq_ok_iff]
  refine exists_congr fun fields => and_congr_right fun _ => ?_
  exact ⟨fun h => (Except.ok.inj h).symm, fun h => h ▸ rfl⟩

variable (wording : Wording) (messages : Entries Text)

theorem Definition.compile_worded (field : Text) (definition : Definition) :
    definition.compile wording messages field =
      (definition.compile wording [] field).map (FieldRule.worded messages field) := by
  cases definition with
  | predicate p => rfl
  | text rule =>
    cases hparse : RuleSpec.parse? rule with
    | some spec =>
      simp only [compile, hparse]
      rfl
    | none =>
      simp only [compile, hparse]
      cases wording.say .ruleMustBeNonEmpty [] with
      | ok text => rfl
      | error failure => rfl

/-- Compiling with texts is compiling without and putting them on. -/
theorem compile_worded (declarations : Declarations) :
    compile wording messages declarations =
      (compile wording [] declarations).map (CompiledRules.worded messages) := by
  unfold compile CompiledRules.worded
  rw [← mapM_map_result]
  congr 1
  funext declaration
  obtain ⟨field, definitions⟩ := declaration
  have hcompile : Definition.compile wording messages field = fun definition =>
      (definition.compile wording [] field).map (FieldRule.worded messages field) := by
    funext definition
    exact definition.compile_worded wording messages field
  simp only [hcompile, mapM_map_result]
  cases definitions.mapM (Definition.compile wording [] field) <;> rfl

end FieldValidation
