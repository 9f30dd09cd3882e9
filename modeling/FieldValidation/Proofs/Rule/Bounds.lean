import FieldValidation.Proofs.Rule.Acceptance
import FieldValidation.Proofs.Value.NumericOrder

/-!
# Numeric bounds

The rules that bound a number accept a value by its order to the bound, which both of them include.
So what is known of the order carries over to them: one of the two accepts a value, and a lower
bound may be lowered.

## Main definitions

* `BuiltinRule.Accepts`: a rule accepts a value under a parameter

## Main results

* `BuiltinRule.accepts_min_iff`, `BuiltinRule.accepts_max_iff`: bounds in terms of the order
* `Value.numericOrder_and_bounds`: the order of numeric values and what bounds make of it
-/

namespace FieldValidation

namespace BuiltinRule

/-- A rule accepts a value under a parameter, whatever the field and the words for a refusal. -/
def Accepts (thisYear : Nat) (rule : BuiltinRule) (parameter value : Value) : Prop :=
  ∀ wording field, rule.validate (Checks.standard thisYear) wording field value parameter = .ok ()

variable {thisYear : Nat} {value parameter : Value}

theorem accepts_iff {rule : BuiltinRule} :
    rule.Accepts thisYear parameter value ↔
      rule.verdict (Checks.standard thisYear) value parameter = .passes := by
  constructor
  · intro h
    exact Verdict.tell_eq_ok_iff.mp (h (Wording.bundled Phrase.bundledLanguage) default)
  · intro h wording field
    exact Verdict.tell_eq_ok_iff.mpr h

/-- A bound keeps the values that stand in an accepted order to it. -/
theorem bound_eq_passes_iff {accepted : Ordering → Bool} {refusal misuse : Phrase}
    (hvalue : value.isNumeric = true) (hparameter : parameter.isNumeric = true) :
    bound (Checks.standard thisYear) accepted refusal misuse value parameter = .passes ↔
      (Value.compareNumeric value parameter).any accepted = true := by
  by_cases h : (Value.compareNumeric value parameter).any accepted = true <;>
    simp [bound, Checks.standard, hvalue, hparameter, h]

theorem accepts_max_iff (hvalue : value.isNumeric = true)
    (hparameter : parameter.isNumeric = true) :
    BuiltinRule.max.Accepts thisYear parameter value ↔ Value.AtMost value parameter :=
  accepts_iff.trans (bound_eq_passes_iff hvalue hparameter)

theorem accepts_min_iff (hvalue : value.isNumeric = true)
    (hparameter : parameter.isNumeric = true) :
    BuiltinRule.min.Accepts thisYear parameter value ↔ Value.AtMost parameter value := by
  rw [Value.atMost_iff_isGE hparameter hvalue]
  exact accepts_iff.trans (bound_eq_passes_iff hvalue hparameter)

/-- The one bound or the other accepts a value, where the two are comparable. -/
theorem accepts_min_or_max (hvalue : value.isNumeric = true)
    (hparameter : parameter.isNumeric = true)
    (h : Value.Comparable value parameter) :
    BuiltinRule.min.Accepts thisYear parameter value ∨
      BuiltinRule.max.Accepts thisYear parameter value := by
  obtain ⟨order, horder, hswap⟩ := Value.exists_compareNumeric hvalue hparameter h
  rw [accepts_min_iff hvalue hparameter, accepts_max_iff hvalue hparameter, Value.AtMost,
    Value.AtMost, horder, hswap]
  cases order <;> decide

end BuiltinRule

namespace Value

/-- The order of numeric values, and what the rules that bound a number make of it. A value is
equal to itself, of two values each is in the reverse order to the other, and the order is
transitive but for bridges. So one of the two bounds accepts a value, both accept the bound itself,
and a lower bound may be lowered but for bridges. -/
theorem numericOrder_and_bounds (thisYear : Nat) {a b c : Value} (ha : a.isNumeric = true)
    (hb : b.isNumeric = true) (hc : c.isNumeric = true) :
    (Comparable a a → compareNumeric a a = some .eq) ∧
    (Comparable a b →
      ∃ order, compareNumeric a b = some order ∧ compareNumeric b a = some order.swap) ∧
    (AtMost a b → AtMost b c → AtMost a c ∨ Bridges b a c) ∧
    (Comparable a b →
      BuiltinRule.min.Accepts thisYear b a ∨ BuiltinRule.max.Accepts thisYear b a) ∧
    (Comparable a a →
      BuiltinRule.min.Accepts thisYear a a ∧ BuiltinRule.max.Accepts thisYear a a) ∧
    (BuiltinRule.min.Accepts thisYear b a → AtMost c b →
      BuiltinRule.min.Accepts thisYear c a ∨ Bridges b c a) := by
  refine ⟨compareNumeric_self ha, exists_compareNumeric ha hb, AtMost.trans_or_bridges ha hb hc,
    BuiltinRule.accepts_min_or_max ha hb, ?_, ?_⟩
  · intro h
    have hself : AtMost a a := by
      rw [AtMost, compareNumeric_self ha h]
      rfl
    exact ⟨(BuiltinRule.accepts_min_iff ha ha).mpr hself,
      (BuiltinRule.accepts_max_iff ha ha).mpr hself⟩
  · intro hmin hcb
    have hba := (BuiltinRule.accepts_min_iff ha hb).mp hmin
    rw [BuiltinRule.accepts_min_iff ha hc]
    exact hcb.trans_or_bridges hc hb ha hba

/-- Above the integers that every double tells apart, a value with a fraction is still between its
neighbours. -/
theorem numericOrder_and_bounds_fraction :
    BuiltinRule.min.Accepts 2024 (.bigint 9007199254740991) (.ofString "9007199254740992.5") := by
  have horder := numericOrder_and_bounds 2024 (a := .ofString "9007199254740992.5")
    (b := .ofInt 9007199254740992) (c := .bigint 9007199254740991)
    (by decide +kernel) (by decide +kernel) (by decide +kernel)
  have hmin : BuiltinRule.min.Accepts 2024 (.ofInt 9007199254740992)
      (.ofString "9007199254740992.5") :=
    BuiltinRule.accepts_iff.mpr (by decide +kernel)
  refine (horder.2.2.2.2.2 hmin (by decide +kernel)).resolve_right ?_
  intro hbridges
  exact absurd hbridges.integers.2 (by decide +kernel)

/-- A numeral with a point is read as one double with two integers, of which it makes the larger
one look the smaller. -/
theorem not_atMost_trans :
    let a := Value.ofString "9007199254740993"
    let b := Value.ofString "9007199254740992.0"
    let c := Value.ofString "9007199254740992"
    (a.isNumeric = true ∧ b.isNumeric = true ∧ c.isNumeric = true) ∧
      AtMost a b ∧ AtMost b c ∧ ¬ AtMost a c := by
  decide +kernel

end Value

end FieldValidation
