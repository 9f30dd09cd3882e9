import FieldValidation.Validator.Basic

/-!
# What is found, and by which rule

The failed fields of a dataset, each with the rule that it failed by. The rule is the one that was
run last: after a failure no further rule is run, and before any is run only the presence of the
field can fail. By the rule it is known whether the application may give the failure a text.

## Main definitions

* `Finding`: a failed field with the rule that it failed by
* `Finding.entryUnder`: its entry in a report under the texts of an application
* `Validator.findings`: the failed fields of a dataset
-/

namespace FieldValidation

/-! ## What a text can be given for -/

/-- A failed field, with the rule that was run last, if one was run. -/
structure Finding where
  failure : FieldFailure
  rule : Option FieldRule

namespace Finding

/-- Whether the application may give a text for a failure: for that of presence, which is found
before any rule is run, and for a violation that a named rule reports. -/
def takesText (finding : Finding) : Bool :=
  match finding.rule, finding.failure.error.kind with
  | none, .requirement _ => true
  | some (.named _), kind => kind.isViolation
  | _, _ => false

/-- The text of a failure under the texts of an application. -/
def textUnder (messages : Entries Text) (finding : Finding) : Text :=
  let given := findMessage messages finding.failure.field finding.failure.rule
  if finding.takesText then given.getD finding.failure.error.message
  else finding.failure.error.message

/-- The entry of a failure under the texts of an application. -/
def entryUnder (messages : Entries Text) (finding : Finding) : FieldError :=
  { finding.failure.entry with message := finding.textUnder messages }

variable {messages : Entries Text} {finding : Finding}

theorem entryUnder_of_given (htakes : finding.takesText = true) {text : Text}
    (hgiven : findMessage messages finding.failure.field finding.failure.rule = some text) :
    finding.entryUnder messages = { finding.failure.entry with message := text } := by
  simp [entryUnder, textUnder, htakes, hgiven]

theorem entryUnder_of_not_takesText (h : finding.takesText = false) :
    finding.entryUnder messages = finding.failure.entry := by
  simp [entryUnder, textUnder, h, FieldFailure.entry]

theorem entryUnder_of_not_given
    (h : findMessage messages finding.failure.field finding.failure.rule = none) :
    finding.entryUnder messages = finding.failure.entry := by
  simp [entryUnder, textUnder, h, FieldFailure.entry]

end Finding

/-! ## The findings in a dataset -/

/-- The failed field that a check comes to. -/
def Traced.finding? (check : Traced (Option FieldFailure)) : Option Finding :=
  match check.result with
  | .ok (some failure) => some ⟨failure, check.ran.getLast?.map Ran.rule⟩
  | _ => none

namespace Validator

/-- The failed ones among some fields, in order. -/
def findingsOf (v : Validator) (wording : Wording) (dataset : Value) (fields : CompiledRules) :
    List Finding :=
  fields.filterMap fun entry => (v.checkField wording dataset entry.1 entry.2).finding?

/-- The failed fields of a dataset, in order. -/
def findings (v : Validator) (wording : Wording) (dataset : Value) : List Finding :=
  v.findingsOf wording dataset v.fields

variable {v : Validator} {wording : Wording} {dataset : Value}

theorem findingsOf_cons (entry : Text × List FieldRule) (rest : CompiledRules) :
    v.findingsOf wording dataset (entry :: rest) =
      (v.checkField wording dataset entry.1 entry.2).finding?.toList ++
        v.findingsOf wording dataset rest := by
  unfold findingsOf
  rw [List.filterMap_cons]
  cases (v.checkField wording dataset entry.1 entry.2).finding? <;> rfl

end Validator

end FieldValidation
