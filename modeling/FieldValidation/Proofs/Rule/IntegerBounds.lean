import FieldValidation.Proofs.Failure.Kinds
import FieldValidation.Proofs.Rule.Bounds
import FieldValidation.Proofs.Value.Denotation

/-!
# Bounds on integers

Two values that denote integers are compared as these integers, whatever their size and however each
of them is given. So a bound is exact on them, and what it refuses it refuses as a violation: a
bound that denotes an integer is one that the rules can work with.

## Main definitions

* `Failure.isMisconfiguration`: whether a failure is put down to the declarations

## Main results

* `BuiltinRule.bounds_of_denotes`: bounds are exact on integers of any size
-/

namespace FieldValidation

/-- Whether a failure is put down to the declarations. -/
def Failure.isMisconfiguration : Failure → Bool
  | .configuration _ _ _ => true
  | .invalidRule _ => true
  | _ => false

/-- A verdict that does not blame the parameter is not told as a fault of the declarations. -/
theorem Verdict.not_isMisconfiguration_of_tell {verdict : Verdict} {wording : Wording}
    {field : FieldId} {failure : Failure}
    (hverdict : ∀ phrase, verdict ≠ .unusableParameter phrase)
    (h : verdict.tell wording field = .error failure) : failure.isMisconfiguration = false := by
  cases verdict with
  | passes => cases h
  | violated phrase args =>
    rcases Wording.of_tell_eq_error h with ⟨text, rfl⟩ | ⟨fault, rfl⟩ <;> rfl
  | notAValueRule =>
    rcases Wording.of_tell_eq_error h with ⟨text, rfl⟩ | ⟨fault, rfl⟩ <;> rfl
  | unusableParameter phrase => exact absurd rfl (hverdict phrase)

namespace BuiltinRule

variable {thisYear : Nat} {value parameter : Value}

/-- A bound on numeric values passes them or refuses them. -/
theorem bound_of_numeric {accepted : Ordering → Bool} {refusal misuse : Phrase}
    (hvalue : value.isNumeric = true) (hparameter : parameter.isNumeric = true) :
    bound (Checks.standard thisYear) accepted refusal misuse value parameter =
      if (Value.compareNumeric value parameter).any accepted then .passes
      else .violated refusal [parameter.written] := by
  unfold bound
  rw [show (Checks.standard thisYear).isNumeric value = true from hvalue,
    show (Checks.standard thisYear).isNumeric parameter = true from hparameter]
  rfl

/-- A numeric bound is never blamed. -/
theorem not_isMisconfiguration_of_numeric {rule : BuiltinRule} {wording : Wording}
    {field : FieldId} {failure : Failure} (hrule : rule = .min ∨ rule = .max)
    (hvalue : value.isNumeric = true) (hparameter : parameter.isNumeric = true)
    (h : rule.validate (Checks.standard thisYear) wording field value parameter =
      .error failure) : failure.isMisconfiguration = false := by
  apply Verdict.not_isMisconfiguration_of_tell _ h
  intro phrase
  rcases hrule with rfl | rfl
  all_goals
    rw [verdict, bound_of_numeric hvalue hparameter]
    split <;> simp

/-- Integers of any size are compared exactly, whether they are given as they are, as doubles that
tell them from all others or as texts: a lower bound accepts those from it on, an upper bound those
up to it, and neither bound is blamed for what it refuses. -/
theorem bounds_of_denotes (thisYear : Nat) {value parameter : Value} {i j : Int}
    (hvalue : value.Denotes i) (hparameter : parameter.Denotes j) :
    Value.compareNumeric value parameter = some (compare i j) ∧
    (BuiltinRule.min.Accepts thisYear parameter value ↔ j ≤ i) ∧
    (BuiltinRule.max.Accepts thisYear parameter value ↔ i ≤ j) ∧
    ∀ rule wording field failure, rule = .min ∨ rule = .max →
      BuiltinRule.validate rule (Checks.standard thisYear) wording field value parameter =
        .error failure → failure.isMisconfiguration = false := by
  have hinteger := Value.exactInteger?_of_denotes hvalue
  have hinteger' := Value.exactInteger?_of_denotes hparameter
  have hnumeric := Value.isNumeric_of_denotes hvalue
  have hnumeric' := Value.isNumeric_of_denotes hparameter
  refine ⟨Value.compareNumeric_of_integers hinteger hinteger', ?_, ?_, ?_⟩
  · rw [accepts_min_iff hnumeric hnumeric']
    exact Value.atMost_of_integers hinteger' hinteger
  · rw [accepts_max_iff hnumeric hnumeric']
    exact Value.atMost_of_integers hinteger hinteger'
  · intro rule wording field failure hrule h
    exact not_isMisconfiguration_of_numeric hrule hnumeric hnumeric' h

/-- Two integers that one double stands for, one of them spelled with a sign, leading zeros and
blanks. -/
theorem bounds_of_denotes_neighbours :
    (Value.bigint 9007199254740993).Denotes 9007199254740993 ∧
    (Value.ofString " +009007199254740992\t").Denotes 9007199254740992 ∧
    BuiltinRule.min.Accepts 2024 (.ofString " +009007199254740992\t") (.bigint 9007199254740993) ∧
    ¬ BuiltinRule.max.Accepts 2024 (.ofString " +009007199254740992\t")
      (.bigint 9007199254740993) := by
  have hspelled : (Value.ofString " +009007199254740992\t").Denotes 9007199254740992 := by
    refine Value.denotes_iff.mpr ⟨by decide +kernel, ?_⟩
    intro x hx
    cases hx
  obtain ⟨-, hmin, hmax, -⟩ := bounds_of_denotes 2024 (.bigint 9007199254740993) hspelled
  exact ⟨.bigint _, hspelled, hmin.mpr (by decide), fun h => absurd (hmax.mp h) (by decide)⟩

end BuiltinRule

end FieldValidation
