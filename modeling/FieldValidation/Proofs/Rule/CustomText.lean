import FieldValidation.Proofs.Rule.Discipline
import FieldValidation.Proofs.Rule.Reworded
import FieldValidation.Proofs.Rule.Violations

/-!
# What a text of the application replaces

A named rule with a text of the application passes where it passes without, and what fails for
another reason than a violation fails alike. A violation gets the text, and the original is kept as
its cause. But the violation that comes of it is one of value rules in general, on the field that
was asked for. So its field and its code are those of the original only where the original named
that field and had the code of rule violations, as it does under every built-in rule but the one
that asks for the field.

## Main definitions

* `Failure.isViolation`: whether a failure is a violation
* `InputError.ReplacesText`: a violation that differs from another in its text only

## Main results

* `InputError.replacesText_reworded_iff`: which violations keep all but their text
* `NamedRule.validate_some`: a rule with a text and without
* `NamedRule.validate_customText`: what a text replaces
-/

namespace FieldValidation

/-- Whether a failure is a violation of a value rule. -/
def Failure.isViolation : Failure → Bool
  | .input error => error.kind.isViolation
  | _ => false

/-- `worded` is the violation `original` with another text, and has it for its cause. -/
structure InputError.ReplacesText (original : InputError) (text : Text) (worded : InputError) :
    Prop where
  isViolation : worded.kind.isViolation = true
  message : worded.message = text
  field : worded.field = original.field
  code : worded.code = original.code
  causes : worded.causes = original.toRefusal :: original.causes

/-! ## Failures with another text -/

namespace Failure

/-- No other failure takes the text. -/
theorem reword_of_not_violation {failure : Failure} (h : failure.isViolation = false)
    (field : FieldId) (message : Option Text) : failure.reword field message = failure := by
  cases failure with
  | input error => exact reword_of_not_isViolation field h message
  | _ => rfl

/-- A failure with another text is a violation where it was one. -/
theorem isViolation_reword (failure : Failure) (field : FieldId) (message : Option Text) :
    (failure.reword field message).isViolation = failure.isViolation := by
  cases hviolation : failure.isViolation with
  | false => rw [reword_of_not_violation hviolation, hviolation]
  | true =>
    cases failure with
    | input error =>
      cases message with
      | none => rw [reword_none, hviolation]
      | some text =>
        rw [reword_of_isViolation field hviolation]
        rfl
    | _ => cases hviolation

end Failure

namespace InputError

variable {original : InputError} {text : Text} {field : FieldId}

/-- A violation keeps all but its text where it names the field and has the code of rule
violations. -/
theorem replacesText_reworded_iff :
    original.ReplacesText text (original.reworded .rule text field) ↔
      original.field = some field ∧ original.code = InputErrorKind.rule.code := by
  constructor
  · exact fun h => ⟨h.field.symm, h.code.symm⟩
  · rintro ⟨hfield, hcode⟩
    exact ⟨rfl, rfl, hfield.symm, hcode.symm, rfl⟩

end InputError

/-! ## Rules with a text -/

namespace Registry

variable {registry : Registry} {wording : Wording} {name : Text} {parameter value : Value}
  {field : FieldId} {original : InputError}

/-- Running a name is running the rule that is found under it. -/
theorem validate_of_find? {found : Rule} (hname : name ≠ [])
    (hfind : registry.find? name = some found) (message : Option Text) :
    NamedRule.validate ⟨name, parameter, message⟩ registry wording field value =
      (found.validate registry.checks wording field value parameter).mapError
        (Failure.reword field message) := by
  have hget : registry.get? wording name = .ok (some found) :=
    get?_eq_ok_iff.mpr ⟨hname, hfind.symm⟩
  simp only [NamedRule.validate, hget, bind, Except.bind]

/-- What a built-in rule refuses keeps all but its text, unless it is the rule that asks for the
field. -/
theorem replacesText_builtin_iff {rule : BuiltinRule}
    (hfind : registry.find? name = some (.builtin rule))
    (h : NamedRule.validate ⟨name, parameter, none⟩ registry wording field value =
      .error (.input original)) (text : Text) :
    original.ReplacesText text (original.reworded .rule text field) ↔ rule ≠ .required := by
  obtain ⟨-, found, hfound, hrun⟩ := NamedRule.exists_of_refusal rfl h
  obtain rfl := Option.some.inj (hfind.symm.trans hfound)
  obtain ⟨plain, rfl⟩ := BuiltinRule.exists_of_validate hrun
  rw [InputError.replacesText_reworded_iff, ← BuiltinRule.code_refusalKind_iff]
  exact and_iff_right rfl

end Registry

namespace NamedRule

variable (registry : Registry) (wording : Wording) (name : Text) (parameter : Value) (text : Text)
  (field : FieldId) (value : Value)

/-- A rule with a text fails as it does without, but for the text of a violation. -/
theorem validate_some :
    validate ⟨name, parameter, some text⟩ registry wording field value =
      (validate ⟨name, parameter, none⟩ registry wording field value).mapError
        (Failure.reword field (some text)) :=
  validate_message ⟨name, parameter, none⟩ (some text)

/-- With a text, a rule passes where it passes without, and fails alike for any other reason than a
violation. A violation takes the text, and the original becomes its cause. It is the original in
all else just where that named the field with the code of rule violations; among the built-in rules
all do but the one that asks for the field. -/
theorem validate_customText :
    let run (message : Option Text) :=
      validate ⟨name, parameter, message⟩ registry wording field value
    (run (some text) = .ok () ↔ run none = .ok ()) ∧
    (∀ failure, failure.isViolation = false →
      (run (some text) = .error failure ↔ run none = .error failure)) ∧
    ∀ original : InputError, run none = .error (.input original) →
      original.kind.isViolation = true →
      ∃ worded : InputError, run (some text) = .error (.input worded) ∧
        worded.kind = .rule ∧ worded.message = text ∧
        worded.causes = original.toRefusal :: original.causes ∧
        (original.ReplacesText text worded ↔
          original.field = some field ∧ original.code = InputErrorKind.rule.code) ∧
        ∀ rule, registry.find? name = some (.builtin rule) →
          (original.ReplacesText text worded ↔ rule ≠ .required) := by
  intro run
  have hrun : run (some text) = (run none).mapError (Failure.reword field (some text)) :=
    validate_some registry wording name parameter text field value
  refine ⟨?_, ?_, ?_⟩
  · rw [hrun]
    exact mapError_eq_ok_iff
  · intro failure hfailure
    rw [hrun]
    cases hplain : run none with
    | ok _ => exact ⟨nofun, nofun⟩
    | error plain =>
      constructor
      · intro h
        obtain rfl := Except.error.inj h
        rw [Failure.isViolation_reword] at hfailure
        rw [Failure.reword_of_not_violation hfailure]
      · intro h
        obtain rfl := Except.error.inj h
        exact congrArg Except.error (Failure.reword_of_not_violation hfailure field (some text))
  · intro original horiginal hviolation
    refine ⟨original.reworded .rule text field, ?_, rfl, rfl, rfl,
      InputError.replacesText_reworded_iff, fun rule hfind =>
        Registry.replacesText_builtin_iff hfind horiginal text⟩
    rw [hrun, horiginal]
    exact congrArg Except.error (Failure.reword_of_isViolation field hviolation text)

/-- Runs a named rule on the age of somebody, with the built-in rules and the English texts. -/
def judgeAge (rule : NamedRule) (age : Value) : Except Failure Unit :=
  rule.validate (.standard (.standard 2024)) (.bundled Phrase.bundledLanguage) (.name "age") age

/-- What a built-in rule has to say against an age is said. -/
theorem exists_of_judgeAge {name : Text} {parameter age : Value} {rule : BuiltinRule}
    {phrase : Phrase} {args : List Text} (hname : name ≠ [])
    (hfind : (Registry.standard (.standard 2024)).find? name = some (.builtin rule))
    (hverdict : (rule.verdict (.standard 2024) age parameter).refusal? = some (phrase, args))
    (harity : phrase.arity = args.length + 1) :
    ∃ original, judgeAge ⟨name, parameter, none⟩ age = .error (.input original) ∧
      original.kind.isViolation = true := by
  obtain ⟨text, htext⟩ := Wording.bundled_tells phrase (FieldId.written (.name "age") :: args)
    harity.symm
  obtain ⟨original, htell, hviolation, -, -⟩ := Verdict.tell_of_refusal hverdict htext
  refine ⟨original, ?_, hviolation⟩
  have hvalidate : (Rule.builtin rule).validate (.standard 2024) (.bundled Phrase.bundledLanguage)
      (.name "age") age parameter = .error (.input original) := htell
  rw [judgeAge, Registry.validate_of_find? hname hfind]
  exact congrArg (Except.mapError (Failure.reword _ none)) hvalidate

/-- A lower bound with a text of its own: what it refuses keeps all but the text. -/
theorem validate_customText_min :
    ∃ original worded : InputError,
      judgeAge ⟨"min", .ofString "18", none⟩ (.ofString "7") = .error (.input original) ∧
      judgeAge ⟨"min", .ofString "18", some "Too young."⟩ (.ofString "7") =
        .error (.input worded) ∧
      original.ReplacesText "Too young." worded := by
  have hfind : (Registry.standard (.standard 2024)).find? "min" = some (.builtin .min) := rfl
  have hverdict : (BuiltinRule.min.verdict (.standard 2024) (.ofString "7")
      (.ofString "18")).refusal? = some (Phrase.fieldMinValue, [Text.ofString "18"]) := by
    decide +kernel
  obtain ⟨original, hplain, hviolation⟩ :=
    exists_of_judgeAge (by decide) hfind hverdict (by decide)
  obtain ⟨-, -, hworded⟩ := validate_customText (.standard (.standard 2024))
    (.bundled Phrase.bundledLanguage) "min" (.ofString "18") "Too young." (.name "age")
    (.ofString "7")
  obtain ⟨worded, hrun, -, -, -, -, hbuiltin⟩ := hworded original hplain hviolation
  exact ⟨original, worded, hplain, hrun, (hbuiltin .min hfind).mpr (by decide)⟩

/-- The rule that asks for the field, run as a value rule with a text of its own: the violation
loses its code. -/
theorem not_validate_customText :
    ∃ original : InputError,
      judgeAge ⟨"required", .null, none⟩ (.ofString "7") = .error (.input original) ∧
      original.kind.isViolation = true ∧
      ¬ ∃ worded : InputError,
        judgeAge ⟨"required", .null, some "Custom text"⟩ (.ofString "7") =
          .error (.input worded) ∧ original.ReplacesText "Custom text" worded := by
  have hfind : (Registry.standard (.standard 2024)).find? "required" =
      some (.builtin .required) := rfl
  obtain ⟨original, hplain, hviolation⟩ :=
    exists_of_judgeAge (by decide) hfind rfl (by decide)
  refine ⟨original, hplain, hviolation, ?_⟩
  rintro ⟨worded, hrun, hreplaces⟩
  have hreworded : judgeAge ⟨"required", .null, some "Custom text"⟩ (.ofString "7") =
      .error (.input (original.reworded .rule "Custom text" (.name "age"))) := by
    rw [judgeAge, validate_some, ← judgeAge, hplain]
    exact congrArg Except.error (Failure.reword_of_isViolation _ hviolation _)
  rw [hreworded] at hrun
  cases hrun
  exact absurd ((Registry.replacesText_builtin_iff hfind hplain _).mp hreplaces) (by decide)

end NamedRule

end FieldValidation
