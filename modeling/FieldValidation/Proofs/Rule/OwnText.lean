import FieldValidation.Proofs.Number.Written
import FieldValidation.Proofs.Rule.Bounds
import FieldValidation.Proofs.Value.Denotation

/-!
# A number and its own text

The text of a number is read as the number, so as doubles the two are equal and neither is above the
other. They are not compared as doubles, however, where the number is an integer and its text is
digits alone: the digits of a number are the fewest that read back as it, with zeros after them, and
beyond the integers that doubles tell apart they may spell another integer. Then the bounds tell the
number from its own text.

## Main definitions

* `BuiltinRule.Meets`: a value is accepted by both bounds
* `FiniteNumber.ownText`: what is written of a number
* `FiniteNumber.SpelledExactly`: the text of a number denotes no other integer

## Main results

* `FiniteNumber.meets_ownText`: a number and its own text meet as value and bound exactly where the
  text does not spell another integer
-/

namespace FieldValidation

/-- A value is neither above a bound nor below it. -/
def BuiltinRule.Meets (thisYear : Nat) (value bound : Value) : Prop :=
  BuiltinRule.min.Accepts thisYear bound value ∧ BuiltinRule.max.Accepts thisYear bound value

theorem BuiltinRule.meets_iff {thisYear : Nat} {value bound : Value}
    (hvalue : value.isNumeric = true) (hbound : bound.isNumeric = true) :
    Meets thisYear value bound ↔ Value.AtMost bound value ∧ Value.AtMost value bound :=
  and_congr (accepts_min_iff hvalue hbound) (accepts_max_iff hvalue hbound)

theorem BuiltinRule.Meets.symm_iff {thisYear : Nat} {value bound : Value}
    (hvalue : value.isNumeric = true) (hbound : bound.isNumeric = true) :
    Meets thisYear bound value ↔ Meets thisYear value bound := by
  rw [meets_iff hvalue hbound, meets_iff hbound hvalue]
  exact and_comm

namespace FiniteNumber

/-- What is written of a number, as a value. -/
def ownText (x : FiniteNumber) : Value := .text (Number.written (.finite x))

/-- Where a number is an integer and its text denotes one, the text denotes the number. -/
def SpelledExactly (x : FiniteNumber) : Prop :=
  ∀ i j, x.IsInteger i → x.ownText.Denotes j → i = j

variable {x : FiniteNumber}

theorem isNumeric_ownText (x : FiniteNumber) : x.ownText.isNumeric = true :=
  (Number.place_ofText_written x).1

theorem place_ownText (x : FiniteNumber) : x.ownText.toNumber.place = x.scaled :=
  (Number.place_ofText_written x).2

theorem exactInteger?_eq_some_iff {i : Int} :
    (Value.number (.finite x)).exactInteger? = some i ↔ x.IsInteger i :=
  toInt?_eq_some_iff

/-- A text denotes what is read off it. -/
theorem denotes_ownText_iff {j : Int} :
    x.ownText.Denotes j ↔ x.ownText.exactInteger? = some j := by
  rw [Value.denotes_iff]
  apply and_iff_left
  intro y hy
  cases hy

/-- A number and its own text are equal as doubles. -/
theorem atMost_ownText_of_not_integers
    (h : ¬ Value.BothIntegers (.number (.finite x)) x.ownText) :
    Value.AtMost (.number (.finite x)) x.ownText ∧
      Value.AtMost x.ownText (.number (.finite x)) := by
  have hplace : (Value.number (.finite x)).toNumber.place = x.ownText.toNumber.place :=
    x.place_ownText.symm
  have hfinite : ¬ Value.SameInfinity (.number (.finite x)) x.ownText := by
    rintro ⟨negative, hinfinite, -⟩
    cases hinfinite
  constructor
  · rw [Value.atMost_of_not_integers rfl x.isNumeric_ownText h]
    exact ⟨hfinite, Int.le_of_eq hplace⟩
  · rw [Value.atMost_of_not_integers x.isNumeric_ownText rfl (mt Value.BothIntegers.symm h)]
    exact ⟨mt Value.SameInfinity.symm hfinite, Int.le_of_eq hplace.symm⟩

/-- A number and its own text are in no order but equality exactly where the text spells no other
integer. -/
theorem atMost_ownText_iff (x : FiniteNumber) :
    Value.AtMost x.ownText (.number (.finite x)) ∧ Value.AtMost (.number (.finite x)) x.ownText ↔
      x.SpelledExactly := by
  constructor
  · rintro ⟨hbelow, habove⟩ i j hi hj
    rw [← exactInteger?_eq_some_iff] at hi
    rw [denotes_ownText_iff] at hj
    exact Int.le_antisymm ((Value.atMost_of_integers hi hj).mp habove)
      ((Value.atMost_of_integers hj hi).mp hbelow)
  · intro hexact
    by_cases hint : Value.BothIntegers (.number (.finite x)) x.ownText
    · obtain ⟨i, j, hi, hj⟩ := hint.exists_integers
      have heq := hexact i j (exactInteger?_eq_some_iff.mp hi) (denotes_ownText_iff.mpr hj)
      exact ⟨(Value.atMost_of_integers hj hi).mpr (Int.le_of_eq heq.symm),
        (Value.atMost_of_integers hi hj).mpr (Int.le_of_eq heq)⟩
    · exact (atMost_ownText_of_not_integers hint).symm

/-- The text of a safe integer spells the integer, for no other integer is read as its double. -/
theorem spelledExactly_of_safe
    (h : ∀ i, x.IsInteger i → i.natAbs ≤ Number.maxSafeInteger) : x.SpelledExactly := by
  intro i j hi hj
  apply Number.ofInt_inj_of_place (h i hi)
  calc (Number.ofInt i).place
      = (Value.number (.finite x)).toNumber.place :=
        (Value.place_toNumber (exactInteger?_eq_some_iff.mpr hi)).symm
    _ = x.ownText.toNumber.place := x.place_ownText.symm
    _ = (Number.ofInt j).place := Value.place_toNumber (denotes_ownText_iff.mp hj)

/-- As a value and a bound, either way round, a number and its own text are accepted by both bounds
exactly where the text does not spell another integer than the number. It never does for a number
that has a fraction or is a safe integer. -/
theorem meets_ownText (thisYear : Nat) (x : FiniteNumber) :
    ((BuiltinRule.Meets thisYear (.number (.finite x)) x.ownText ∧
        BuiltinRule.Meets thisYear x.ownText (.number (.finite x))) ↔ x.SpelledExactly) ∧
      ((∀ i, x.IsInteger i → i.natAbs ≤ Number.maxSafeInteger) → x.SpelledExactly) := by
  refine ⟨?_, spelledExactly_of_safe⟩
  rw [BuiltinRule.Meets.symm_iff rfl x.isNumeric_ownText, and_self,
    BuiltinRule.meets_iff rfl x.isNumeric_ownText]
  exact x.atMost_ownText_iff

/-- The double nearest to one tenth, whose text has a fraction. -/
theorem meets_ownText_tenth :
    let tenth : FiniteNumber :=
      ⟨false, 7205759403792794, -56, by decide +kernel, by decide, by decide,
        .inl (by decide +kernel)⟩
    tenth.ownText = .ofString "0.1" ∧
      BuiltinRule.Meets 2024 (.number (.finite tenth)) tenth.ownText ∧
      BuiltinRule.Meets 2024 tenth.ownText (.number (.finite tenth)) := by
  intro tenth
  have hfraction : tenth.toInt? = none := by decide +kernel
  obtain ⟨hmeets, hexact⟩ := meets_ownText 2024 tenth
  have hwritten : Number.written (.finite tenth) = Text.ofString "0.1" := by decide +kernel
  refine ⟨congrArg Value.text hwritten, hmeets.mpr (hexact ?_)⟩
  intro i hi
  rw [← exactInteger?_eq_some_iff] at hi
  exact absurd (hfraction.symm.trans hi) nofun

/-- The sixtieth power of two is written with zeros for its last three digits, and its text spells
an integer above it. -/
theorem not_meets_ownText :
    let x : FiniteNumber :=
      ⟨false, twoTo 52, 8, by decide +kernel, by decide, by decide, .inl (Nat.le_refl _)⟩
    x.IsInteger 1152921504606846976 ∧ x.ownText = .ofString "1152921504606847000" ∧
      ¬ (BuiltinRule.Meets 2024 (.number (.finite x)) x.ownText ∧
        BuiltinRule.Meets 2024 x.ownText (.number (.finite x))) := by
  intro x
  have hwritten : Number.written (.finite x) = Text.ofString "1152921504606847000" := by
    decide +kernel
  refine ⟨isInteger_of_toInt? (by decide +kernel), congrArg Value.text hwritten, ?_⟩
  rintro ⟨⟨hmin, -⟩, -⟩
  exact absurd (BuiltinRule.accepts_iff.mp hmin) (by decide +kernel)

end FiniteNumber

end FieldValidation
