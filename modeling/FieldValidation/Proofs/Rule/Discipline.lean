import FieldValidation.Proofs.Message.Telling
import FieldValidation.Proofs.Rule.Acceptance

/-!
# How the built-in rules fail

A rule looks at the value, then at its parameter, and then holds one against the other. So it has
two refusals at most, one for the value alone and one for the value against the parameter, and what
they say is settled by the field and the parameter. Whether the parameter can be used does not
depend on the value. Some rules look at the value first, and then a refusal may hide that the
parameter cannot be used; but no value passes with such a parameter.

## Main definitions

* `Verdict.refusal?`: what a verdict says against a value
* `Disciplined`: verdicts with two refusals at most, none of which passes where one of them finds
  the parameter unusable

## Main results

* `BuiltinRule.disciplined`: the verdicts of a rule under a parameter
* `BuiltinRule.failsInOrder`: what a rule makes of a field when there are texts for it
-/

namespace FieldValidation

/-! ## Verdicts -/

namespace Verdict

variable {verdict : Verdict} {phrase : Phrase} {args : List Text} {wording : Wording}
  {field : FieldId}

/-- What a verdict says against a value, and what is put in after the field. -/
def refusal? : Verdict → Option (Phrase × List Text)
  | .violated phrase args => some (phrase, args)
  | .notAValueRule => some (.requiredRuleInvokedDirectly, [])
  | .passes | .unusableParameter _ => none

/-- A refusal is told as a violation that names the field. -/
theorem tell_of_refusal (h : verdict.refusal? = some (phrase, args)) {text : Text}
    (htext : wording.say phrase (field.written :: args) = .ok text) :
    ∃ error : InputError, verdict.tell wording field = .error (.input error) ∧
      error.kind.isViolation = true ∧ error.field = some field ∧ error.message = text := by
  cases verdict with
  | passes | unusableParameter => cases h
  | violated phrase' args' =>
    cases h
    refine ⟨.violation text field, ?_, rfl, rfl, rfl⟩
    simp only [tell, htext]
    rfl
  | notAValueRule =>
    cases h
    refine ⟨.ofKind .requiredRule text (some field), ?_, rfl, rfl, rfl⟩
    simp only [tell, htext]
    rfl

/-- An unusable parameter is told as a defect of the declarations. -/
theorem tell_of_unusable {text : Text} (htext : wording.say phrase [] = .ok text) :
    (unusableParameter phrase).tell wording field = .error (.misconfigured text) := by
  simp only [tell, htext]
  rfl

/-- What is no refusal of the data is told of no refusal. -/
theorem refusal?_isSome_of_tell {error : InputError}
    (h : verdict.tell wording field = .error (.input error)) : verdict.refusal?.isSome = true := by
  cases verdict with
  | violated | notAValueRule => rfl
  | passes => cases h
  | unusableParameter phrase =>
    rcases Wording.of_tell_eq_error h with ⟨text, hfailure⟩ | ⟨fault, hfailure⟩ <;> cases hfailure

/-- A defect of the declarations is told of an unusable parameter only. -/
theorem eq_unusable_of_tell {message code : Text} {defect : Option DocumentDefect}
    (h : verdict.tell wording field = .error (.configuration message code defect)) :
    ∃ phrase, verdict = .unusableParameter phrase := by
  cases verdict with
  | unusableParameter phrase => exact ⟨phrase, rfl⟩
  | passes => cases h
  | violated phrase args =>
    rcases Wording.of_tell_eq_error h with ⟨text, hfailure⟩ | ⟨fault, hfailure⟩ <;> cases hfailure
  | notAValueRule =>
    rcases Wording.of_tell_eq_error h with ⟨text, hfailure⟩ | ⟨fault, hfailure⟩ <;> cases hfailure

end Verdict

/-! ## Discipline -/

/-- What is said against the values is one of two things at most, each with as many arguments as its
phrase takes; and a parameter that is found unusable for some value lets no value pass. -/
structure Disciplined (judge : Value → Verdict) : Prop where
  few : ∃ refusals : List (Phrase × List Text), refusals.length ≤ 2 ∧
    (∀ refusal ∈ refusals, refusal.1.arity = refusal.2.length + 1) ∧
    ∀ value refusal, (judge value).refusal? = some refusal → refusal ∈ refusals
  unusable : ∀ value phrase, judge value = .unusableParameter phrase →
    phrase.arity = 0 ∧ ∀ other, judge other ≠ .passes

namespace Disciplined

variable {refusal misuse first : Phrase}

/-- A test of the value alone has one refusal. -/
theorem plainTest (valid : Value → Bool) (h : refusal.arity = 1) :
    Disciplined fun value => BuiltinRule.plainTest (valid value) refusal where
  few := by
    refine ⟨[(refusal, [])], Nat.le_succ 1, by simpa using h, ?_⟩
    intro value said hsaid
    cases hvalid : valid value with
    | true =>
      rw [hvalid] at hsaid
      cases hsaid
    | false =>
      rw [hvalid] at hsaid
      obtain rfl : (refusal, []) = said := Option.some.inj hsaid
      exact List.mem_singleton_self _
  unusable := by
    intro value phrase hunusable
    cases hvalid : valid value <;> rw [hvalid] at hunusable <;> cases hunusable

/-- A rule that is not run as a value rule has one refusal. -/
theorem notAValueRule : Disciplined fun _ => .notAValueRule where
  few := by
    refine ⟨[(.requiredRuleInvokedDirectly, [])], Nat.le_succ 1, by decide, ?_⟩
    intro value said hsaid
    obtain rfl : (.requiredRuleInvokedDirectly, []) = said := Option.some.inj hsaid
    exact List.mem_singleton_self _
  unusable := nofun

/-- Where the parameter is unusable whatever the value, nothing passes and nothing is refused. -/
theorem unusableParameter (h : misuse.arity = 0) :
    Disciplined fun _ => .unusableParameter misuse where
  few := ⟨[], Nat.zero_le 2, nofun, nofun⟩
  unusable := by
    intro value phrase hunusable
    cases hunusable
    exact ⟨h, nofun⟩

/-- Which test is meant depends on the parameter, and so does whether there is one. -/
theorem strictOrLenient (strictly leniently : Value → Bool) (h : refusal.arity = 1)
    (hmisuse : misuse.arity = 0) (parameter : Value) :
    Disciplined fun value => BuiltinRule.strictOrLenient (strictly value) (leniently value) refusal
      misuse parameter := by
  cases parameter with
  | null | undefined => exact plainTest leniently h
  | text t =>
    by_cases hstrict : t = BuiltinRule.strict
    · rw [hstrict]
      exact plainTest strictly h
    · have hjudge := unusableParameter hmisuse
      simpa only [BuiltinRule.strictOrLenient, if_neg hstrict] using hjudge
  | bool | number | bigint | list | record | map | file => exact unusableParameter hmisuse

/-- The verdict of a rule that looks at the value, at the parameter and then at both. -/
def inTurn (suits : Value → Bool) (usable : Bool) (fits : Value → Bool)
    (first misuse refusal : Phrase) (told : Text) (value : Value) : Verdict :=
  if !suits value then .violated first []
  else if !usable then .unusableParameter misuse
  else if fits value then .passes
  else .violated refusal [told]

/-- Such a rule has one refusal for the value alone and one for both. With a parameter that it
cannot use it does not come to look at both. -/
theorem of_inTurn (suits : Value → Bool) (usable : Bool) (fits : Value → Bool) (told : Text)
    (hfirst : first.arity = 1) (hmisuse : misuse.arity = 0) (hrefusal : refusal.arity = 2) :
    Disciplined (inTurn suits usable fits first misuse refusal told) where
  few := by
    refine ⟨[(first, []), (refusal, [told])], Nat.le_refl 2, by simp [hfirst, hrefusal], ?_⟩
    intro value said hsaid
    unfold inTurn at hsaid
    cases hsuits : suits value with
    | false =>
      rw [hsuits] at hsaid
      obtain rfl : (first, []) = said := Option.some.inj hsaid
      exact List.mem_cons_self
    | true =>
      rw [hsuits] at hsaid
      cases usable with
      | false => cases hsaid
      | true =>
        cases hfits : fits value with
        | true =>
          rw [hfits] at hsaid
          cases hsaid
        | false =>
          rw [hfits] at hsaid
          obtain rfl : (refusal, [told]) = said := Option.some.inj hsaid
          exact List.mem_cons_of_mem _ (List.mem_singleton_self _)
  unusable := by
    intro value phrase hunusable
    cases usable with
    | false =>
      have hphrase : misuse = phrase := by
        unfold inTurn at hunusable
        cases hsuits : suits value <;> rw [hsuits] at hunusable <;> cases hunusable
        rfl
      refine ⟨hphrase ▸ hmisuse, fun other => ?_⟩
      unfold inTurn
      cases suits other <;> nofun
    | true =>
      unfold inTurn at hunusable
      cases hsuits : suits value <;> cases hfits : fits value <;>
        rw [hsuits, hfits] at hunusable <;> cases hunusable

/-- An enumeration looks at its parameter first. -/
theorem enumeration (checks : Checks) (parameter : Value) :
    Disciplined fun value => BuiltinRule.enumeration checks value parameter := by
  by_cases hnone : BuiltinRule.allowedValues checks parameter = []
  · have hjudge : Disciplined fun _ => .unusableParameter .enumRequiresValues :=
      unusableParameter rfl
    simpa only [BuiltinRule.enumeration, if_pos hnone] using hjudge
  · have hjudge : Disciplined (inTurn (fun _ => true) true
        (fun value => BuiltinRule.isScalar value &&
          (BuiltinRule.allowedValues checks parameter).contains value.written)
        .fieldMustBeAString .enumRequiresValues .fieldMustBeOneOf
        (Text.join ", " (BuiltinRule.allowedValues checks parameter))) :=
      of_inTurn _ _ _ _ rfl rfl rfl
    have heq : (fun value => BuiltinRule.enumeration checks value parameter) = _ :=
      funext fun value => if_neg hnone
    rw [heq]
    exact hjudge

end Disciplined

namespace BuiltinRule

/-- The verdicts of a rule under a parameter are disciplined, whatever its checks say. -/
theorem disciplined (rule : BuiltinRule) (checks : Checks) (parameter : Value) :
    Disciplined fun value => rule.verdict checks value parameter := by
  cases rule with
  | required => exact .notAValueRule
  | string => exact .plainTest checks.isString rfl
  | email => exact .plainTest checks.isEmailAddress rfl
  | numeric => exact .strictOrLenient checks.isNumber checks.isNumeric rfl rfl parameter
  | integer => exact .strictOrLenient checks.isInteger checks.isIntegerLike rfl rfl parameter
  | min | max | minLength | maxLength | datetime | regex =>
    exact .of_inTurn _ _ _ parameter.written rfl rfl rfl
  | enum => exact .enumeration checks parameter

section Told

variable {wording : Wording} (htells : ∀ phrase, wording.Tells phrase phrase.arity)
  (rule : BuiltinRule) (checks : Checks) (field : FieldId) (parameter : Value)

include htells

/-- A rule passes, reports a violation that names the field, or finds its parameter unusable. -/
theorem validate_cases (value : Value) :
    rule.validate checks wording field value parameter = .ok () ∨
      (∃ error : InputError,
        rule.validate checks wording field value parameter = .error (.input error) ∧
          error.kind.isViolation = true ∧ error.field = some field) ∨
      ∃ text, rule.validate checks wording field value parameter =
        .error (.misconfigured text) := by
  obtain ⟨⟨refusals, -, harity, hfew⟩, hunusable⟩ := rule.disciplined checks parameter
  unfold validate
  cases hrefusal : (rule.verdict checks value parameter).refusal? with
  | some said =>
    right; left
    obtain ⟨phrase, args⟩ := said
    obtain ⟨text, htext⟩ := htells phrase (field.written :: args)
      (harity _ (hfew value _ hrefusal)).symm
    obtain ⟨error, herror, hviolation, hfield, -⟩ := Verdict.tell_of_refusal hrefusal htext
    exact ⟨error, herror, hviolation, hfield⟩
  | none =>
    cases hverdict : rule.verdict checks value parameter with
    | passes => exact .inl rfl
    | violated | notAValueRule =>
      rw [hverdict] at hrefusal
      cases hrefusal
    | unusableParameter phrase =>
      right; right
      obtain ⟨text, htext⟩ := htells phrase [] (hunusable value phrase hverdict).1.symm
      exact ⟨text, Verdict.tell_of_unusable htext⟩

/-- Whatever the value, the violations of a rule under a parameter say one of two things at most. -/
theorem exists_texts : ∃ texts : List Text, texts.length ≤ 2 ∧
    ∀ value error, rule.validate checks wording field value parameter = .error (.input error) →
      error.message ∈ texts := by
  obtain ⟨⟨refusals, hlength, harity, hfew⟩, -⟩ := rule.disciplined checks parameter
  let texts := refusals.filterMap fun refusal =>
    (wording.say refusal.1 (field.written :: refusal.2)).toOption
  refine ⟨texts, Nat.le_trans (List.length_filterMap_le _ _) hlength, ?_⟩
  intro value error herror
  obtain ⟨⟨phrase, args⟩, hsaid⟩ :=
    Option.isSome_iff_exists.mp (Verdict.refusal?_isSome_of_tell herror)
  have hmem := hfew value _ hsaid
  obtain ⟨text, htext⟩ := htells phrase (field.written :: args) (harity _ hmem).symm
  obtain ⟨told, htold, -, -, hmessage⟩ := Verdict.tell_of_refusal hsaid htext
  obtain rfl : told = error := by
    rw [validate, htold] at herror
    cases herror
    rfl
  rw [hmessage]
  refine List.mem_filterMap.mpr ⟨(phrase, args), hmem, ?_⟩
  rw [htext]
  rfl

omit htells in
/-- A parameter that is found unusable for some value lets no value pass. -/
theorem not_passes_of_configuration {value : Value} {message code : Text}
    {defect : Option DocumentDefect}
    (h : rule.validate checks wording field value parameter =
      .error (.configuration message code defect)) (other : Value) :
    rule.validate checks wording field other parameter ≠ .ok () := by
  obtain ⟨phrase, hverdict⟩ := Verdict.eq_unusable_of_tell h
  obtain ⟨-, hnone⟩ := (rule.disciplined checks parameter).unusable value phrase hverdict
  intro hpasses
  exact hnone other (Verdict.tell_eq_ok_iff.mp hpasses)

/-- Where there are texts for what it has to say, a rule passes, reports a violation that names the
field, or finds its parameter unusable. Whatever the value, its violations say one of two things at
most; and with a parameter that it finds unusable for some value it passes none. -/
theorem failsInOrder :
    (∀ value, rule.validate checks wording field value parameter = .ok () ∨
      (∃ error : InputError,
        rule.validate checks wording field value parameter = .error (.input error) ∧
          error.kind.isViolation = true ∧ error.field = some field) ∨
      ∃ text, rule.validate checks wording field value parameter = .error (.misconfigured text)) ∧
    (∃ texts : List Text, texts.length ≤ 2 ∧ ∀ value error,
      rule.validate checks wording field value parameter = .error (.input error) →
        error.message ∈ texts) ∧
    ∀ value message code defect,
      rule.validate checks wording field value parameter =
        .error (.configuration message code defect) →
      ∀ other, rule.validate checks wording field other parameter ≠ .ok () :=
  ⟨rule.validate_cases htells checks field parameter,
    rule.exists_texts htells checks field parameter,
    fun _ _ _ _ h other => rule.not_passes_of_configuration checks field parameter h other⟩

end Told

/-- A lower bound that is no number: a value that is no number either is refused without noticing
it, but no value passes. -/
theorem failsInOrder_noNumber :
    let judge (value : Value) := BuiltinRule.min.validate (Checks.standard 2024)
      (Wording.bundled Phrase.bundledLanguage) (.name "age") value (.ofString "ten")
    (∃ error : InputError, judge .null = .error (.input error) ∧
        error.field = some (.name "age")) ∧
      (∃ text, judge (.bigint 12) = .error (.misconfigured text)) ∧
      ∀ value, judge value ≠ .ok () := by
  intro judge
  obtain ⟨hcases, -, hunusable⟩ := failsInOrder Wording.bundled_tells .min (Checks.standard 2024)
    (.name "age") (.ofString "ten")
  have hrefused : (BuiltinRule.min.verdict (Checks.standard 2024) .null
      (.ofString "ten")).refusal? = some (.fieldMustBeNumeric, []) := rfl
  obtain ⟨text, htext⟩ := Wording.bundled_tells .minRequiresNumber [] rfl
  have hmisused : judge (.bigint 12) = .error (.misconfigured text) :=
    Verdict.tell_of_unusable htext
  refine ⟨?_, ⟨text, hmisused⟩, hunusable _ _ _ _ hmisused⟩
  rcases hcases .null with hpasses | ⟨error, herror, -, hfield⟩ | ⟨message, hmessage⟩
  · exact absurd hpasses (hunusable _ _ _ _ hmisused .null)
  · exact ⟨error, herror, hfield⟩
  · obtain ⟨phrase, hverdict⟩ := Verdict.eq_unusable_of_tell hmessage
    rw [hverdict] at hrefused
    cases hrefused

end BuiltinRule

end FieldValidation
