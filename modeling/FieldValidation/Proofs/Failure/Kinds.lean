import FieldValidation.Message.Phrase

/-!
# Kinds of failure

A refusal of the data is reported for the field it concerns, and any other failure ends the
validation. What the resolution of presence fails with is a defect: of the declarations, or of the
catalog, which has no text to give.

## Main definitions

* `Failure.isRefusal`: whether a failure is a refusal of the data
* `Failure.isDefect`: whether a failure lies with the declarations or the catalog

## Main results

* `Wording.of_tell_eq_error`: what comes of telling a failure in words
* `Wording.isDefect_of_say`: a missing text is a defect
-/

namespace FieldValidation

namespace Failure

/-- Whether a failure is a refusal of the data. -/
def isRefusal : Failure → Bool
  | .input _ => true
  | _ => false

/-- Whether a failure lies with the declarations or with the catalog. -/
def isDefect : Failure → Bool
  | .configuration _ _ _ => true
  | .catalog _ => true
  | _ => false

theorem not_isRefusal_of_isDefect {failure : Failure} (h : failure.isDefect = true) :
    failure.isRefusal = false := by
  cases failure <;> first | rfl | cases h

end Failure

namespace Wording

variable {wording : Wording} {phrase : Phrase} {args : List Text} {failure : Failure}

/-- What there is no text for is the fault of the catalog. -/
theorem exists_of_say_eq_error (h : wording.say phrase args = .error failure) :
    ∃ fault, failure = .catalog fault := by
  unfold say at h
  cases hget : wording.catalog.get wording.language phrase.key args with
  | ok text => rw [hget] at h; cases h
  | error fault =>
    rw [hget] at h
    exact ⟨fault, (Except.error.inj h).symm⟩

/-- A missing text is a defect. -/
theorem isDefect_of_say (h : wording.say phrase args = .error failure) :
    failure.isDefect = true := by
  obtain ⟨fault, rfl⟩ := exists_of_say_eq_error h
  rfl

/-- A failure told in words is that failure, unless there are no words for it. -/
theorem of_tell_eq_error {α : Type} {tell : Text → Failure}
    (h : (do throw (tell (← wording.say phrase args)) : Except Failure α) = .error failure) :
    (∃ text, failure = tell text) ∨ ∃ fault, failure = .catalog fault := by
  cases hsay : wording.say phrase args with
  | ok text =>
    rw [hsay] at h
    exact .inl ⟨text, (Except.error.inj h).symm⟩
  | error missing =>
    rw [hsay] at h
    obtain rfl : missing = failure := Except.error.inj h
    exact .inr (exists_of_say_eq_error hsay)

/-- A failure told in words is never a result. -/
theorem tell_ne_ok {α : Type} {tell : Text → Failure} {a : α} :
    (do throw (tell (← wording.say phrase args)) : Except Failure α) ≠ .ok a := by
  intro h
  cases hsay : wording.say phrase args with
  | ok text => rw [hsay] at h; cases h
  | error missing => rw [hsay] at h; cases h

/-- A defect told in words is a defect, and so is the want of words for it. -/
theorem isDefect_of_tell {α : Type} (tell : Text → Failure)
    (htell : ∀ text, (tell text).isDefect = true)
    (h : (do throw (tell (← wording.say phrase args)) : Except Failure α) = .error failure) :
    failure.isDefect = true := by
  rcases of_tell_eq_error h with ⟨text, rfl⟩ | ⟨fault, rfl⟩
  · exact htell text
  · rfl

end Wording

end FieldValidation
