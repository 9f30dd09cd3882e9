import FieldValidation.Proofs.Failure.Kinds
import FieldValidation.Requirement.Constraints

/-!
# The code of rule violations

The violations of the built-in value rules carry the code of rule violations. The rule that asks
for a field has a code of its own, but it is no value rule and is never run as one. A registry
holds nothing but the built-in rules and those of the application, so its violations carry the
code when those of the application do.

## Main definitions

* `Rule.ViolationsCoded`, `Registry.ViolationsCoded`: the violations carry the code
* `BuiltinRule.refusalKind`: the kind of what a built-in rule refuses the data with

## Main results

* `BuiltinRule.exists_of_validate`: what a built-in rule refuses the data with
* `BuiltinRule.violationsCoded`: the built-in value rules
* `Registry.mem_ofRules`: what a registry holds
* `Registry.ofRules_violationsCoded`: the registry of an application
* `Registry.standard_violationsCoded`: the registry of the built-in rules
-/

namespace FieldValidation

/-- The violations that a rule reports carry the code of rule violations. -/
def Rule.ViolationsCoded (checks : Checks) (rule : Rule) : Prop :=
  ∀ (wording : Wording) (field : FieldId) (value parameter : Value) (error : InputError),
    rule.validate checks wording field value parameter = .error (.input error) →
    error.kind.isViolation = true → error.code = InputErrorKind.rule.code

/-- The violations that the value rules of a registry report carry the code of rule violations. -/
def Registry.ViolationsCoded (registry : Registry) : Prop :=
  ∀ (rule : NamedRule) (found : Rule), (FieldRule.named rule).isRequirement = false →
    registry.find? rule.name = some found → found.ViolationsCoded registry.checks

/-! ## The built-in rules -/

/-- What refuses the data in the words of a verdict names the field. It is a rule violation, unless
the rule is no value rule. -/
theorem Verdict.exists_of_tell {wording : Wording} {field : FieldId} {verdict : Verdict}
    {error : InputError} (h : verdict.tell wording field = .error (.input error)) :
    ∃ text, error = .ofKind (if verdict = .notAValueRule then .requiredRule else .rule) text
      (some field) := by
  cases verdict with
  | passes => cases h
  | violated phrase args =>
    rcases Wording.of_tell_eq_error h with ⟨text, hfailure⟩ | ⟨fault, hfailure⟩ <;> cases hfailure
    exact ⟨text, rfl⟩
  | notAValueRule =>
    rcases Wording.of_tell_eq_error h with ⟨text, hfailure⟩ | ⟨fault, hfailure⟩ <;> cases hfailure
    exact ⟨text, rfl⟩
  | unusableParameter phrase =>
    cases Wording.isDefect_of_tell Failure.misconfigured (fun _ => rfl) h

namespace BuiltinRule

/-- Only the rule that asks for a field is no value rule. -/
theorem verdict_ne_notAValueRule {rule : BuiltinRule} (h : rule ≠ .required) (checks : Checks)
    (value parameter : Value) : rule.verdict checks value parameter ≠ .notAValueRule := by
  cases rule with
  | required => exact absurd rfl h
  | string | email =>
    simp only [verdict, plainTest]
    split <;> simp
  | numeric | integer =>
    simp only [verdict, strictOrLenient]
    repeat' split
    all_goals simp
  | min | max =>
    simp only [verdict, bound]
    repeat' split
    all_goals simp
  | minLength | maxLength =>
    simp only [verdict, lengthBound]
    repeat' split
    all_goals simp
  | datetime | regex =>
    simp only [verdict, textAgainst]
    repeat' split
    all_goals simp
  | enum =>
    simp only [verdict, enumeration]
    repeat' split
    all_goals simp

/-- The kind of what a rule refuses the data with. -/
def refusalKind : BuiltinRule → InputErrorKind
  | .required => .requiredRule
  | _ => .rule

/-- What a built-in rule refuses the data with has its kind, with the code of that kind, and names
the field. -/
theorem exists_of_validate {rule : BuiltinRule} {checks : Checks} {wording : Wording}
    {field : FieldId} {value parameter : Value} {error : InputError}
    (h : rule.validate checks wording field value parameter = .error (.input error)) :
    ∃ text, error = .ofKind rule.refusalKind text (some field) := by
  obtain ⟨text, rfl⟩ := Verdict.exists_of_tell h
  refine ⟨text, ?_⟩
  by_cases hrequired : rule = .required
  · subst hrequired
    rfl
  · have hkind : rule.refusalKind = .rule := by
      cases rule <;> first | rfl | exact absurd rfl hrequired
    rw [if_neg (verdict_ne_notAValueRule hrequired checks value parameter), hkind]

/-- Only the rule that asks for a field has a code of its own. -/
theorem code_refusalKind_iff {rule : BuiltinRule} :
    rule.refusalKind.code = InputErrorKind.rule.code ↔ rule ≠ .required := by
  cases rule <;> decide

/-- A built-in value rule refuses the data with the code of rule violations. -/
theorem violationsCoded {rule : BuiltinRule} (hvalue : rule ≠ .required) (checks : Checks) :
    (Rule.builtin rule).ViolationsCoded checks := by
  intro wording field value parameter error herror _
  obtain ⟨text, rfl⟩ := exists_of_validate herror
  exact code_refusalKind_iff.mpr hvalue

end BuiltinRule

/-! ## What a registry holds -/

/-- Where each step adds one entry at most, all there is was there before or was added by a step. -/
theorem mem_of_mem_foldl {α β : Type} {step : List β → α → List β} (added : α → β)
    (hstep : ∀ entries a entry, entry ∈ step entries a → entry ∈ entries ∨ entry = added a)
    {steps : List α} {entries : List β} {entry : β} (h : entry ∈ steps.foldl step entries) :
    entry ∈ entries ∨ ∃ a ∈ steps, entry = added a := by
  induction steps generalizing entries with
  | nil => exact .inl h
  | cons a rest ih =>
    rw [List.foldl_cons] at h
    rcases ih h with hmem | ⟨b, hb, rfl⟩
    · rcases hstep entries a entry hmem with hold | rfl
      · exact .inl hold
      · exact .inr ⟨a, List.mem_cons_self, rfl⟩
    · exact .inr ⟨b, List.mem_cons_of_mem _ hb, rfl⟩

namespace Entries

variable {α : Type} {entries : Entries α} {key : Text} {value : α} {entry : Text × α}

theorem mem_insertNew (h : entry ∈ insertNew entries key value) :
    entry ∈ entries ∨ entry = (key, value) := by
  induction entries with
  | nil => exact .inr (List.mem_singleton.mp h)
  | cons first rest ih =>
    unfold insertNew at h
    split at h
    · exact (List.mem_cons.mp h).symm
    · rcases List.mem_cons.mp h with rfl | hmem
      · exact .inl List.mem_cons_self
      · exact (ih hmem).imp_left (List.mem_cons_of_mem _)

/-- What is put is the only new entry. -/
theorem mem_put (h : entry ∈ put entries key value) : entry ∈ entries ∨ entry = (key, value) := by
  unfold put at h
  split at h
  · obtain ⟨⟨k, v⟩, hmem, rfl⟩ := List.mem_map.mp h
    by_cases hk : k = key
    · right; simp [hk]
    · left; simpa [hk] using hmem
  · exact mem_insertNew h

end Entries

namespace Registry

/-- What is registered is the only new entry. -/
theorem mem_register {rules : List (Text × Rule)} {name : Text} {rule : Rule}
    {entry : Text × Rule} (h : entry ∈ register rules name rule) :
    entry ∈ rules ∨ entry = (name, rule) := by
  unfold register at h
  split at h
  · obtain ⟨⟨n, r⟩, hmem, rfl⟩ := List.mem_map.mp h
    by_cases hn : n = name
    · right; simp [hn]
    · left; simpa [hn] using hmem
  · simpa using h

/-- A registry holds the built-in rules and those of the application, under their names in lower
case, and nothing else. -/
theorem mem_ofRules {checks : Checks} {extra : Entries Rule} {entry : Text × Rule}
    (h : entry ∈ (ofRules checks extra).rules) :
    ∃ declared ∈ builtinRules ++ extra, entry = (Text.toLower declared.1, declared.2) := by
  unfold ofRules at h
  rcases mem_of_mem_foldl (fun declared : Text × Rule => (Text.toLower declared.1, declared.2))
    (fun _ _ _ => mem_register) h with hnone | ⟨declared, hmem, rfl⟩
  · cases hnone
  · refine ⟨declared, List.mem_append.mpr ?_, rfl⟩
    rcases mem_of_mem_foldl id (fun _ _ _ => Entries.mem_put) hmem with hbuiltin | ⟨_, hextra, rfl⟩
    · exact .inl hbuiltin
    · exact .inr hextra

/-- The rule of a name is one that was declared under that name, in some letter case. -/
theorem exists_of_find?_ofRules {checks : Checks} {extra : Entries Rule} {name : Text}
    {found : Rule} (h : (ofRules checks extra).find? name = some found) :
    ∃ key, (key, found) ∈ builtinRules ++ extra ∧ Text.toLower key = Text.toLower name := by
  obtain ⟨before, after, hrules, -⟩ := List.lookup_eq_some_iff.mp h
  have hrule : (Text.toLower name, found) ∈ (ofRules checks extra).rules := by
    rw [hrules]
    simp
  obtain ⟨declared, hmem, heq⟩ := mem_ofRules hrule
  obtain ⟨hname, rfl⟩ := Prod.mk.inj heq
  exact ⟨declared.1, hmem, hname.symm⟩

/-- The violations of a registry carry the code where those of the application's rules do. -/
theorem ofRules_violationsCoded {checks : Checks} {extra : Entries Rule}
    (hextra : ∀ declared ∈ extra, declared.2.ViolationsCoded checks) :
    (ofRules checks extra).ViolationsCoded := by
  intro rule found hvalue hfind
  obtain ⟨key, hmem, hkey⟩ := exists_of_find?_ofRules hfind
  rcases List.mem_append.mp hmem with hbuiltin | happlication
  · obtain ⟨builtin, -, heq⟩ := List.mem_map.mp hbuiltin
    obtain ⟨rfl, rfl⟩ := Prod.mk.inj heq
    refine BuiltinRule.violationsCoded ?_ checks
    rintro rfl
    have hname : Text.toLower rule.name = requiredName := by
      rw [← hkey]
      decide
    simp [FieldRule.isRequirement, FieldRule.isRequired, FieldRule.name, hname] at hvalue
  · exact hextra _ happlication

/-- The violations of the built-in rules carry the code. -/
theorem standard_violationsCoded (checks : Checks) : (standard checks).ViolationsCoded :=
  ofRules_violationsCoded (by simp)

end Registry

end FieldValidation
