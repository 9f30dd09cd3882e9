import FieldValidation.Proofs.Rule.OwnText

/-!
# The numeric types

The rules `numeric` and `integer` each have a strict reading, for numbers proper, and a plain one.
What an integer is in either reading is numeric in the same reading, and what is a plain integer
meets itself as a bound. The plain reading of a rule takes in the strict one but for the integers
that doubles do not tell apart: these are numbers without fraction, and no safe integers.

## Main definitions

* `Value.IsNoParameter`: what stands for a missing parameter

## Main results

* `BuiltinRule.numericTypes_nested`: how the readings of the two rules lie in one another
-/

namespace FieldValidation

/-- A value that stands for a missing parameter. -/
def Value.IsNoParameter (parameter : Value) : Prop := parameter = .null ∨ parameter = .undefined

/-! ## Integers without leading zeros -/

namespace Text

variable {t : Text}

theorem isDigit_of_isCanonicalDigits (h : isCanonicalDigits t = true) :
    t ≠ [] ∧ ∀ u ∈ t, u.isDigit = true := by
  match t with
  | [u] =>
    refine ⟨by simp, fun v hv => ?_⟩
    rw [List.mem_singleton.mp hv]
    exact h
  | u :: v :: rest =>
    simp only [isCanonicalDigits, Bool.and_eq_true] at h
    refine ⟨by simp, fun w hw => ?_⟩
    rcases List.mem_cons.mp hw with rfl | hw
    · exact h.1.1
    · exact List.all_eq_true.mp h.2 w hw

/-- Digits without leading zeros. -/
theorem isCanonicalDigits_iff :
    isCanonicalDigits t = true ↔
      t = [unit '0'] ∨ ∃ u rest, t = u :: rest ∧ u.isDigit = true ∧ u ≠ unit '0' ∧
        ∀ v ∈ rest, v.isDigit = true := by
  match t with
  | [] => simp [isCanonicalDigits]
  | [u] =>
    by_cases hu : u = unit '0'
    · simp [isCanonicalDigits, hu]
      decide
    · simp [isCanonicalDigits, hu]
  | u :: v :: rest => simp [isCanonicalDigits, and_assoc]

/-- An integer without leading zeros is a numeral, and its value is read. -/
theorem isNumeral_of_isCanonicalInteger (h : isCanonicalInteger t = true) :
    isNumeral t = true ∧ (bigInteger? t).isSome = true := by
  obtain ⟨hne, hdigits⟩ := isDigit_of_isCanonicalDigits h
  refine ⟨isUnsignedNumeral_of_digits hne hdigits, ?_⟩
  rw [← snd_takeSign] at hne hdigits
  rw [bigInteger?_eq_some_iff.mpr ⟨hne, hdigits, rfl⟩]
  rfl

end Text

namespace Value

variable {v : Value}

/-! ## The predicates -/

theorem isNumeric_of_isNumber (h : v.isNumber = true) : v.isNumeric = true := by
  cases v with
  | number => exact h
  | _ => cases h

theorem isNumber_of_isInteger (h : v.isInteger = true) : v.isNumber = true := by
  cases v with
  | number x =>
    cases x with
    | finite => rfl
    | nan | infinite => cases h
  | _ => cases h

/-- What spells or is a safe integer is numeric, and stands for an integer. -/
theorem isNumeric_of_isIntegerLike (h : v.isIntegerLike = true) :
    v.isNumeric = true ∧ v.exactInteger?.isSome = true := by
  cases v with
  | number x =>
    cases x with
    | nan | infinite => cases h
    | finite x =>
      refine ⟨rfl, ?_⟩
      cases hinteger : x.toInt? with
      | some i => simp [exactInteger?, Number.toInt?, hinteger]
      | none => simp [isIntegerLike, Number.isSafeInteger, Number.toInt?, hinteger] at h
  | text t =>
    obtain ⟨hcanonical, -⟩ := Bool.and_eq_true_iff.mp h
    exact Text.isNumeral_of_isCanonicalInteger hcanonical
  | _ => cases h

/-- A number without fraction is a safe integer where its magnitude is small enough. -/
theorem exists_of_isInteger (h : v.isInteger = true) :
    ∃ x i, v = .number (.finite x) ∧ x.IsInteger i ∧
      (v.isIntegerLike = true ↔ i.natAbs ≤ Number.maxSafeInteger) := by
  cases v with
  | number x =>
    cases x with
    | nan | infinite => cases h
    | finite x =>
      obtain ⟨i, hi⟩ := Option.isSome_iff_exists.mp h
      refine ⟨x, i, rfl, FiniteNumber.isInteger_of_toInt? hi, ?_⟩
      simp [isIntegerLike, Number.isSafeInteger, hi]
  | _ => cases h

/-- What is numeric and no number is a text or an integer of any size. -/
theorem text_or_bigint_of_not_isNumber (h : v.isNumeric = true) (hnot : ¬ v.isNumber = true) :
    (∃ t, v = .text t) ∨ ∃ i, v = .bigint i := by
  cases v with
  | number x => exact absurd h hnot
  | bigint i => exact .inr ⟨i, rfl⟩
  | text t => exact .inl ⟨t, rfl⟩
  | _ => cases h

theorem text_of_not_isInteger (h : v.isIntegerLike = true) (hnot : ¬ v.isInteger = true) :
    ∃ t, v = .text t := by
  cases v with
  | number x =>
    obtain ⟨i, hi⟩ := Option.isSome_iff_exists.mp (isNumeric_of_isIntegerLike h).2
    exact absurd (show x.toInt?.isSome = true by rw [show x.toInt? = some i from hi]; rfl) hnot
  | text t => exact ⟨t, rfl⟩
  | _ => cases h

end Value

/-! ## The rules -/

namespace BuiltinRule

variable {thisYear : Nat} {parameter value : Value} {strictly leniently : Bool}
  {refusal misuse : Phrase}

/-- Of the two readings of a rule the parameter says which is meant. -/
theorem strictOrLenient_eq_passes_iff :
    strictOrLenient strictly leniently refusal misuse parameter = .passes ↔
      (parameter = .text strict ∧ strictly = true) ∨
        (parameter.IsNoParameter ∧ leniently = true) := by
  unfold strictOrLenient Value.IsNoParameter
  cases parameter with
  | null | undefined => cases leniently <;> simp
  | text t => by_cases h : t = strict <;> cases strictly <;> simp [h]
  | _ => simp

theorem not_isNoParameter_text (t : Text) : ¬ (Value.text t).IsNoParameter := by
  rintro (h | h) <;> cases h

theorem strictOrLenient_strict_iff :
    strictOrLenient strictly leniently refusal misuse (.text strict) = .passes ↔
      strictly = true := by
  simp [strictOrLenient_eq_passes_iff, not_isNoParameter_text]

theorem strictOrLenient_plain_iff (h : parameter.IsNoParameter) :
    strictOrLenient strictly leniently refusal misuse parameter = .passes ↔
      leniently = true := by
  have hstrict : parameter ≠ .text strict := by
    rintro rfl
    exact not_isNoParameter_text _ h
  simp [strictOrLenient_eq_passes_iff, hstrict, h]

theorem accepts_numeric_strict_iff :
    BuiltinRule.numeric.Accepts thisYear (.text strict) value ↔ value.isNumber = true := by
  rw [accepts_iff, verdict, strictOrLenient_strict_iff]
  rfl

theorem accepts_integer_strict_iff :
    BuiltinRule.integer.Accepts thisYear (.text strict) value ↔ value.isInteger = true := by
  rw [accepts_iff, verdict, strictOrLenient_strict_iff]
  rfl

theorem accepts_numeric_plain_iff (h : parameter.IsNoParameter) :
    BuiltinRule.numeric.Accepts thisYear parameter value ↔ value.isNumeric = true :=
  accepts_iff.trans (strictOrLenient_plain_iff h)

theorem accepts_integer_plain_iff (h : parameter.IsNoParameter) :
    BuiltinRule.integer.Accepts thisYear parameter value ↔ value.isIntegerLike = true :=
  accepts_iff.trans (strictOrLenient_plain_iff h)

/-- What is an integer is numeric, in either reading. -/
theorem accepts_numeric_of_integer
    (h : BuiltinRule.integer.Accepts thisYear parameter value) :
    BuiltinRule.numeric.Accepts thisYear parameter value := by
  rcases strictOrLenient_eq_passes_iff.mp (accepts_iff.mp h) with
    ⟨rfl, hinteger⟩ | ⟨hplain, hinteger⟩
  · exact accepts_numeric_strict_iff.mpr (Value.isNumber_of_isInteger hinteger)
  · exact (accepts_numeric_plain_iff hplain).mpr (Value.isNumeric_of_isIntegerLike hinteger).1

/-- An integer meets itself as a bound. -/
theorem meets_self_of_isIntegerLike (h : value.isIntegerLike = true) :
    Meets thisYear value value := by
  obtain ⟨hnumeric, hsome⟩ := Value.isNumeric_of_isIntegerLike h
  obtain ⟨i, hi⟩ := Option.isSome_iff_exists.mp hsome
  have hself : Value.AtMost value value := (Value.atMost_of_integers hi hi).mpr (Int.le_refl i)
  exact (meets_iff hnumeric hnumeric).mpr ⟨hself, hself⟩

/-- How the readings of the two rules lie in one another. What the strict reading accepts the plain
one accepts, but for integers that are not safe; what only the plain reading accepts is a text, or
for `numeric` an integer that is no number. An integer is numeric in the same reading, and a plain
integer is accepted by both bounds where it is the bound itself. -/
theorem numericTypes_nested (thisYear : Nat) {plain : Value} (hplain : plain.IsNoParameter)
    (value : Value) :
    (BuiltinRule.numeric.Accepts thisYear (.text strict) value →
      BuiltinRule.numeric.Accepts thisYear plain value) ∧
    (BuiltinRule.integer.Accepts thisYear (.text strict) value →
      ∃ x i, value = .number (.finite x) ∧ x.IsInteger i ∧
        (BuiltinRule.integer.Accepts thisYear plain value ↔
          i.natAbs ≤ Number.maxSafeInteger)) ∧
    (BuiltinRule.numeric.Accepts thisYear plain value →
      ¬ BuiltinRule.numeric.Accepts thisYear (.text strict) value →
        (∃ t, value = .text t) ∨ ∃ i, value = .bigint i) ∧
    (BuiltinRule.integer.Accepts thisYear plain value →
      ¬ BuiltinRule.integer.Accepts thisYear (.text strict) value → ∃ t, value = .text t) ∧
    (∀ parameter, BuiltinRule.integer.Accepts thisYear parameter value →
      BuiltinRule.numeric.Accepts thisYear parameter value) ∧
    (BuiltinRule.integer.Accepts thisYear plain value →
      BuiltinRule.min.Accepts thisYear value value ∧
        BuiltinRule.max.Accepts thisYear value value) := by
  rw [accepts_numeric_strict_iff, accepts_integer_strict_iff, accepts_numeric_plain_iff hplain,
    accepts_integer_plain_iff hplain]
  exact ⟨Value.isNumeric_of_isNumber, Value.exists_of_isInteger,
    Value.text_or_bigint_of_not_isNumber, Value.text_of_not_isInteger,
    fun _ => accepts_numeric_of_integer, meets_self_of_isIntegerLike⟩

/-- The largest integer that both readings accept. -/
theorem numericTypes_nested_largest :
    BuiltinRule.integer.Accepts 2024 (.text strict) (.ofInt 9007199254740991) ∧
      BuiltinRule.integer.Accepts 2024 .null (.ofInt 9007199254740991) := by
  have hstrict : BuiltinRule.integer.Accepts 2024 (.text strict) (.ofInt 9007199254740991) :=
    accepts_iff.mpr (by decide +kernel)
  obtain ⟨x, i, hx, hi, hplain⟩ :=
    (numericTypes_nested 2024 (.inl rfl) (.ofInt 9007199254740991)).2.1 hstrict
  have hinteger : (Value.ofInt 9007199254740991).exactInteger? = some 9007199254740991 := by
    decide +kernel
  rw [hx, FiniteNumber.exactInteger?_eq_some_iff.mpr hi] at hinteger
  refine ⟨hstrict, hplain.mpr ?_⟩
  rw [Option.some.inj hinteger]
  decide +kernel

/-- The next integer is a number without fraction, and yet no plain integer. -/
theorem not_numericTypes_nested :
    BuiltinRule.integer.Accepts 2024 (.text strict) (.ofInt 9007199254740992) ∧
      ¬ BuiltinRule.integer.Accepts 2024 .null (.ofInt 9007199254740992) := by
  rw [accepts_iff, accepts_iff]
  decide +kernel

end BuiltinRule

end FieldValidation
