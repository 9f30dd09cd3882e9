import FieldValidation.Proofs.Message.Telling
import FieldValidation.Proofs.Sequence.Results
import FieldValidation.Requirement.Resolution

/-!
# What the resolution of presence settles

The rules of a field either have a defect or make a requirement, and a requirement refuses the data
exactly when its outcome is not valid. Where it does not refuse, an absent field is left at that;
so a field whose value is looked at is present. What is to be refused is told in words, and where
there are none for it, the catalog has failed instead.

## Main definitions

* `RequirementOutcome.phrase?`: the phrase that tells of an outcome

## Main results

* `Requirement.ofRules_eq_ok`: the requirement that rules make
* `Requirement.refusal?_eq_none_iff`: the data is refused unless the outcome is valid
* `Requirement.refusal?_of_tells`, `Requirement.refusal?_of_not_tells`: with words for it, and
  without
* `Requirement.skipsValueRules_of_valid`: with a valid outcome, just the absent fields are skipped
* `Requirement.ofRules_congr`: presence is asked for the field and its partners only
-/

namespace FieldValidation

namespace PartnerDefect

theorem isDefect_of_tell {α : Type} {wording : Wording} {defect : PartnerDefect}
    {failure : Failure} (h : (defect.tell wording : Except Failure α) = .error failure) :
    failure.isDefect = true :=
  Wording.isDefect_of_tell Failure.misconfigured (fun _ => rfl) h

variable {α : Type} {wording : Wording} {defect : PartnerDefect}

/-- Where there is a text for it, a defect is one of the configuration. -/
theorem tell_of_tells (h : wording.Tells defect.phrase 0) :
    ∃ message, (defect.tell wording : Except Failure α) = .error (.misconfigured message) := by
  obtain ⟨message, hsay⟩ := h [] rfl
  exact ⟨message, by rw [tell, hsay]; rfl⟩

/-- Where there is none, the catalog has failed. -/
theorem tell_of_not_tells (h : ¬ wording.Tells defect.phrase 0) :
    ∃ fault, (defect.tell wording : Except Failure α) = .error (.catalog fault) := by
  obtain ⟨fault, hsay⟩ := Wording.say_of_not_tells h (List.length_nil ..)
  exact ⟨fault, by rw [tell, hsay]; rfl⟩

end PartnerDefect

/-- The phrase that tells of an outcome that is not valid. -/
def RequirementOutcome.phrase? : RequirementOutcome → Option Phrase
  | .valid => none
  | .mutuallyExclusiveConflict => some .onlyOneOfFieldsCanBePresent
  | .missingRequired => some .requiredFieldMissing
  | .missingWithoutAlternative => some .eitherFieldOrOtherMustBePresent

/-- The partners that the rules of a field name. -/
def partnersNamed (rules : List FieldRule) : List FieldId :=
  (rules.filter FieldRule.namesPartner).filterMap fun rule => FieldId.ofValue? rule.parameter

namespace FieldRule

theorem ofValue?_of_partner {field : Option FieldId} {rule : FieldRule} {partner : FieldId}
    (h : rule.partner field = .ok partner) : FieldId.ofValue? rule.parameter = some partner := by
  unfold FieldRule.partner at h
  cases hvalue : FieldId.ofValue? rule.parameter with
  | none => simp [hvalue] at h
  | some other =>
    simp only [hvalue] at h
    split at h
    · cases h
    · rw [Except.ok.inj h]

end FieldRule

namespace Constraints

/-- The partners are among those that the rules name. -/
theorem mem_partnersNamed {field : Option FieldId} {rules : List FieldRule}
    {constraints : Constraints} (h : ofRules field rules = .ok constraints) {partner : FieldId}
    (hmem : partner ∈ constraints.partners) : partner ∈ partnersNamed rules := by
  unfold ofRules at h
  cases hmap : (rules.filter FieldRule.namesPartner).mapM (FieldRule.partner field) with
  | error defect => rw [hmap] at h; cases h
  | ok partners =>
    rw [hmap] at h
    cases h
    obtain ⟨rule, hrule, hpartner⟩ := exists_of_mem_mapM hmap hmem
    exact List.mem_filterMap.mpr ⟨rule, hrule, FieldRule.ofValue?_of_partner hpartner⟩

end Constraints

namespace Requirement

variable {wording : Wording} {field : FieldId} {rules : List FieldRule}
  {present : FieldId → Bool}

/-- The requirement that rules make is that of their constraints. -/
theorem ofRules_eq_ok {r : Requirement} (h : ofRules wording field rules present = .ok r) :
    ∃ constraints, Constraints.ofRules (some field) rules = .ok constraints ∧
      r = ofConstraints field constraints present := by
  unfold ofRules at h
  cases hc : Constraints.ofRules (some field) rules with
  | ok constraints =>
    simp only [hc, Except.ok.injEq] at h
    exact ⟨constraints, rfl, h.symm⟩
  | error defect =>
    rw [hc] at h
    exact absurd h Wording.tell_ne_ok

/-- What is wrong with the rules is a defect. -/
theorem isDefect_of_ofRules {failure : Failure}
    (h : ofRules wording field rules present = .error failure) : failure.isDefect = true := by
  unfold ofRules at h
  cases hc : Constraints.ofRules (some field) rules with
  | ok constraints => simp [hc] at h
  | error defect =>
    rw [hc] at h
    exact PartnerDefect.isDefect_of_tell h

/-- What is refused is refused for the outcome, which is not valid. -/
theorem refusal?_eq_some {r : Requirement} {error : InputError}
    (h : r.refusal? wording = .ok (some error)) :
    ∃ text, error = .ofKind (.requirement r.outcome) text (some r.field) := by
  unfold refusal? at h
  cases htext : r.text? wording with
  | none => simp [htext] at h
  | some said =>
    cases said with
    | ok text =>
      rw [htext] at h
      exact ⟨text, (Option.some.inj (Except.ok.inj h)).symm⟩
    | error failure => rw [htext] at h; cases h

theorem text?_eq_none_iff (wording : Wording) {r : Requirement} :
    r.text? wording = none ↔ r.outcome = .valid := by
  unfold text?
  cases r.outcome <;> simp

/-- The data is refused, or the words for that are missing, unless the outcome is valid. -/
theorem refusal?_eq_none_iff {r : Requirement} :
    r.refusal? wording = .ok none ↔ r.outcome = .valid := by
  rw [← text?_eq_none_iff wording]
  unfold refusal?
  cases htext : r.text? wording with
  | none => simp
  | some said => cases said <;> simp [bind, Except.bind, pure, Except.pure]

theorem exists_text?_eq {r : Requirement} {phrase : Phrase}
    (h : r.outcome.phrase? = some phrase) (wording : Wording) :
    ∃ args, args.length = phrase.arity ∧ r.text? wording = some (wording.say phrase args) := by
  unfold text?
  cases hout : r.outcome <;> rw [hout] at h <;> cases h <;> exact ⟨_, rfl, rfl⟩

/-- Where there is a text for it, an outcome that is not valid is a refusal. -/
theorem refusal?_of_tells {r : Requirement} {phrase : Phrase}
    (h : r.outcome.phrase? = some phrase) (htells : wording.Tells phrase phrase.arity) :
    ∃ text, r.refusal? wording =
      .ok (some (.ofKind (.requirement r.outcome) text (some r.field))) := by
  obtain ⟨args, hargs, htext⟩ := exists_text?_eq h wording
  obtain ⟨text, hsay⟩ := htells args hargs
  exact ⟨text, by rw [refusal?, htext, hsay]; rfl⟩

/-- Where there is none, the catalog has failed. -/
theorem refusal?_of_not_tells {r : Requirement} {phrase : Phrase}
    (h : r.outcome.phrase? = some phrase) (htells : ¬ wording.Tells phrase phrase.arity) :
    ∃ fault, r.refusal? wording = .error (.catalog fault) := by
  obtain ⟨args, hargs, htext⟩ := exists_text?_eq h wording
  obtain ⟨fault, hsay⟩ := Wording.say_of_not_tells htells hargs
  exact ⟨fault, by rw [refusal?, htext, hsay]; rfl⟩

/-- Missing words for a refusal are a defect. -/
theorem isDefect_of_refusal? {r : Requirement} {failure : Failure}
    (h : r.refusal? wording = .error failure) : failure.isDefect = true := by
  unfold refusal? text? at h
  cases hout : r.outcome with
  | valid => simp [hout] at h
  | _ =>
    simp only [hout] at h
    generalize hsaid : wording.say _ _ = said at h
    cases said with
    | ok text => cases h
    | error missing =>
      obtain rfl : missing = failure := Except.error.inj h
      exact Wording.isDefect_of_say hsaid

/-- With a valid outcome, the value rules are skipped just where the field is absent. An absent
field that is required is never reached: its outcome is that it is missing. -/
theorem skipsValueRules_of_valid {r : Requirement} (h : r.outcome = .valid) :
    r.skipsValueRules = !r.fieldPresent := by
  obtain ⟨field, ⟨required, partners⟩, fieldPresent, partnerPresent⟩ := r
  unfold outcome at h
  unfold skipsValueRules
  cases fieldPresent <;> cases required <;> simp_all

/-- Presence is asked for the field and for the partners its rules name, and for no other. -/
theorem ofRules_congr {present' : FieldId → Bool} (hfield : present field = present' field)
    (hpartners : ∀ partner ∈ partnersNamed rules, present partner = present' partner) :
    ofRules wording field rules present = ofRules wording field rules present' := by
  unfold ofRules
  cases hc : Constraints.ofRules (some field) rules with
  | error defect => rfl
  | ok constraints =>
    have hany : constraints.partners.any present = constraints.partners.any present' := by
      rw [Bool.eq_iff_iff, List.any_eq_true, List.any_eq_true]
      refine exists_congr fun partner => and_congr_right fun hmem => ?_
      rw [hpartners partner (Constraints.mem_partnersNamed hc hmem)]
    simp only [ofConstraints, hfield, hany]

end Requirement

end FieldValidation
