import FieldValidation.Proofs.Rule.Acceptance
import FieldValidation.Requirement.Resolution
import FieldValidation.Validator.Compiled

/-!
# Rules with the texts of an application

The texts of an application are looked up once for every named rule, by the field and the name.
They change nothing that a rule is asked for but its text, so the presence of a field is resolved
alike, the same rules are run, and a rule that fails with them fails without them. A text comes to
show in one place only: the violation that a named rule reports.

## Main definitions

* `FieldRule.worded`: a rule with the text that an application gives it
* `FieldRule.failureUnder`: a failure of a rule under the texts of an application

## Main results

* `Requirement.ofRules_worded`: presence is resolved alike
* `FieldRule.validate_worded`: a rule fails alike, but for the text of a violation
* `NamedRule.exists_of_refusal`: what a named rule refuses is refused by the rule of its name
-/

namespace FieldValidation

/-! ## The texts of rules -/

namespace FieldRule

/-- The rule of a field with the text that an application gives it. -/
def worded (messages : Entries Text) (field : Text) : FieldRule → FieldRule
  | .named rule => .named { rule with message := findMessage messages field rule.name }
  | .predicate p => .predicate p

variable (messages : Entries Text) (field : Text) (rule : FieldRule)

@[simp] theorem name_worded : (rule.worded messages field).name = rule.name := by
  cases rule <;> rfl

@[simp] theorem parameter_worded : (rule.worded messages field).parameter = rule.parameter := by
  cases rule <;> rfl

@[simp] theorem isRequirement_worded :
    (rule.worded messages field).isRequirement = rule.isRequirement := by
  simp [isRequirement, isRequired, namesPartner]

end FieldRule

/-! ## Presence -/

section Presence

variable (messages : Entries Text) (text : Text) (rules : List FieldRule)

/-- What does not depend on the texts of rules picks out the same rules under all of them. -/
theorem filter_map_worded {p : FieldRule → Bool}
    (hp : ∀ rule : FieldRule, p (rule.worded messages text) = p rule) :
    (rules.map (FieldRule.worded messages text)).filter p =
      (rules.filter p).map (FieldRule.worded messages text) := by
  have hcomp : p ∘ FieldRule.worded messages text = p := funext hp
  rw [List.filter_map, hcomp]

theorem any_map_worded {p : FieldRule → Bool}
    (hp : ∀ rule : FieldRule, p (rule.worded messages text) = p rule) :
    (rules.map (FieldRule.worded messages text)).any p = rules.any p := by
  have hcomp : p ∘ FieldRule.worded messages text = p := funext hp
  rw [List.any_map, hcomp]

theorem Constraints.ofRules_worded (field : Option FieldId) :
    ofRules field (rules.map (FieldRule.worded messages text)) = ofRules field rules := by
  have hpartner : FieldRule.partner field ∘ FieldRule.worded messages text =
      FieldRule.partner field := by
    funext rule
    simp [FieldRule.partner]
  unfold ofRules
  rw [filter_map_worded messages text rules (by simp [FieldRule.namesPartner]),
    any_map_worded messages text rules (by simp [FieldRule.isRequired]), List.mapM_map]
  change (do let partners ← List.mapM (FieldRule.partner field ∘ _) _; _) = _
  rw [hpartner]

/-- The presence of a field is resolved alike under all texts. -/
theorem Requirement.ofRules_worded (wording : Wording) (field : FieldId)
    (present : FieldId → Bool) :
    ofRules wording field (rules.map (FieldRule.worded messages text)) present =
      ofRules wording field rules present := by
  unfold ofRules
  rw [Constraints.ofRules_worded]

theorem valueRules_worded :
    valueRules (rules.map (FieldRule.worded messages text)) =
      (valueRules rules).map (FieldRule.worded messages text) :=
  filter_map_worded messages text rules (by simp)

end Presence

/-! ## Running a rule -/

namespace Failure

variable (field : FieldId)

/-- A text takes the place of the text of a violation. -/
theorem reword_of_isViolation {error : InputError} (h : error.kind.isViolation = true)
    (text : Text) :
    (Failure.input error).reword field (some text) = .input (error.reworded .rule text field) := by
  simp [reword, h]

/-- Nothing else that refuses the data takes a text. -/
theorem reword_of_not_isViolation {error : InputError} (h : error.kind.isViolation = false)
    (message : Option Text) : (Failure.input error).reword field message = .input error := by
  cases message <;> simp [reword, h]

/-- Nor does any other failure. -/
theorem reword_of_not_isRefusal {failure : Failure} (h : failure.isRefusal = false)
    (message : Option Text) : failure.reword field message = failure := by
  cases failure with
  | input error => cases h
  | _ => rfl

theorem reword_none (failure : Failure) : failure.reword field none = failure := by
  cases failure <;> rfl

end Failure

namespace Registry

variable {registry : Registry} {wording : Wording} {name : Text}

theorem not_isRefusal_of_get? {failure : Failure}
    (h : registry.get? wording name = .error failure) : failure.isRefusal = false := by
  unfold get? at h
  by_cases hname : name = []
  · simp only [hname, if_true] at h
    rcases Wording.of_tell_eq_error h with ⟨_, rfl⟩ | ⟨_, rfl⟩ <;> rfl
  · simp only [hname, if_false] at h
    cases h

end Registry

namespace NamedRule

variable {registry : Registry} {wording : Wording} {field : FieldId} {value : Value}

/-- The text of a rule shows in its failures only, where it takes the place of their texts. -/
theorem validate_message (rule : NamedRule) (message : Option Text) :
    ({ rule with message } : NamedRule).validate registry wording field value =
      (({ rule with message := none } : NamedRule).validate registry wording field value).mapError
        (Failure.reword field message) := by
  unfold validate
  cases hget : registry.get? wording rule.name with
  | error failure =>
    show Except.error failure = Except.error (failure.reword field message)
    rw [Failure.reword_of_not_isRefusal field (Registry.not_isRefusal_of_get? hget)]
  | ok found =>
    cases found with
    | none =>
      cases hsay : wording.say .unknownRule [rule.name] with
      | ok text => rfl
      | error missing =>
        obtain ⟨fault, rfl⟩ := Wording.exists_of_say_eq_error hsay
        rfl
    | some found =>
      simp only [bind, Except.bind]
      cases found.validate registry.checks wording field value rule.parameter with
      | ok _ => rfl
      | error failure =>
        show Except.error (failure.reword field message) =
          Except.error ((failure.reword field none).reword field message)
        rw [Failure.reword_none]

/-- What a named rule refuses is refused by the rule that the registry has under its name. -/
theorem exists_of_refusal {rule : NamedRule} {error : InputError} (hplain : rule.message = none)
    (h : rule.validate registry wording field value = .error (.input error)) :
    rule.name ≠ [] ∧ ∃ found, registry.find? rule.name = some found ∧
      found.validate registry.checks wording field value rule.parameter =
        .error (.input error) := by
  unfold validate at h
  cases hget : registry.get? wording rule.name with
  | error failure =>
    rw [hget] at h
    cases h
    cases Registry.not_isRefusal_of_get? hget
  | ok found =>
    obtain ⟨hname, hfind⟩ := Registry.get?_eq_ok_iff.mp hget
    refine ⟨hname, ?_⟩
    cases found with
    | none =>
      rw [hget] at h
      rcases Wording.of_tell_eq_error h with ⟨text, h⟩ | ⟨fault, h⟩
      · cases h
      · cases h
    | some found =>
      refine ⟨found, hfind.symm, ?_⟩
      simp only [hget, hplain, bind, Except.bind] at h
      cases hrun : found.validate registry.checks wording field value rule.parameter with
      | ok _ => rw [hrun] at h; cases h
      | error failure =>
        rw [hrun] at h
        rw [← Except.error.inj h, Failure.reword_none]

end NamedRule

namespace FieldRule

/-- The failure of a rule under the texts of an application. -/
def failureUnder (messages : Entries Text) (field : Text) : FieldRule → Failure → Failure
  | .named rule, failure => failure.reword field (findMessage messages field rule.name)
  | .predicate _, failure => failure

/-- A rule fails under some texts as it does without, but for the text of a violation. -/
theorem validate_worded (messages : Entries Text) (field : Text) (rule : FieldRule)
    (registry : Registry) (wording : Wording) (value : Value) :
    (rule.worded messages field).validate registry wording field value =
      ((rule.worded [] field).validate registry wording field value).mapError
        (rule.failureUnder messages field) := by
  cases rule with
  | named rule => exact NamedRule.validate_message rule (findMessage messages field rule.name)
  | predicate p =>
    show p.validate wording field value = (p.validate wording field value).mapError id
    cases p.validate wording field value <;> rfl

end FieldRule

end FieldValidation
