import FieldValidation.Proofs.Rule.LengthBounds
import FieldValidation.Proofs.Rule.NumericTexts

/-!
# Texts that spell safe integers

Whether a text spells a safe integer is told by its pattern and by the double that it is read as.
Reading rounds, and the numerals may be of any length, so the range is tested only after digits may
have been lost. No integer is rounded to a safe one but that itself: the integers next to the range
are doubles of their own, and rounding keeps the order. So the test accepts just the numerals that
spell an integer in the range, and these are read as they are spelled.

## Main definitions

* `Text.SpellsPlainly`: digits without leading zeros and the number they spell
* `Text.WritesInteger`: a text and the integer that is written in it without leading zeros

## Main results

* `Text.writesInteger_iff`: the integers that are written are those that are read
* `Number.isSafeInteger_ofText_iff`: a numeral of any length is read as a safe integer just where it
  spells one
* `Value.isIntegerLike_text_iff`: the texts that spell safe integers
-/

namespace FieldValidation

/-! ## Integers as they are written -/

namespace Text

/-- Digits without leading zeros, and the number they spell: what begins with a zero is zero. -/
structure SpellsPlainly (digits : Text) (n : Nat) : Prop where
  spells : Spells digits n
  unpadded : digits.head? = some (unit '0') → digits = [unit '0']

/-- Blanks, an optional sign, digits without leading zeros and blanks: the integer that is written
so. -/
inductive WritesInteger : Text → Int → Prop
  | intro {before sign digits after : Text} {negative : Bool} {n : Nat} (hbefore : before.IsBlank)
      (hsign : IsSign sign negative) (hdigits : SpellsPlainly digits n) (hafter : after.IsBlank) :
      WritesInteger (before ++ (sign ++ (digits ++ after))) (signed negative n)

variable {t digits : Text} {n : Nat} {i : Int}

/-- Digits are without leading zeros where the scan finds none. -/
theorem spellsPlainly_iff :
    SpellsPlainly digits n ↔ isCanonicalDigits digits = true ∧ decimalValue digits = n := by
  constructor
  · rintro ⟨hspells, hunpadded⟩
    obtain ⟨hne, hall, hvalue⟩ := spells_iff.mp hspells
    refine ⟨isCanonicalDigits_iff.mpr ?_, hvalue⟩
    obtain ⟨u, rest, rfl⟩ := List.exists_cons_of_ne_nil hne
    by_cases hu : u = unit '0'
    · exact .inl (hunpadded (congrArg some hu))
    · obtain ⟨hdigit, hrest⟩ := List.forall_mem_cons.mp hall
      exact .inr ⟨u, rest, rfl, hdigit, hu, hrest⟩
  · rintro ⟨hcanonical, hvalue⟩
    obtain ⟨hne, hall⟩ := isDigit_of_isCanonicalDigits hcanonical
    refine ⟨spells_iff.mpr ⟨hne, hall, hvalue⟩, fun hzero => ?_⟩
    rcases isCanonicalDigits_iff.mp hcanonical with hone | ⟨u, rest, rfl, -, hu, -⟩
    · exact hone
    · exact absurd (Option.some.inj hzero) hu

/-- The integer that is written in a text is the one that is read off it, if the scan finds no
leading zeros. -/
theorem writesInteger_iff :
    WritesInteger t i ↔ isCanonicalInteger t = true ∧ bigInteger? t = some i := by
  have hframe := exists_frame_iff (t := t) (P := fun digits => isCanonicalDigits digits = true)
    fun _ h =>
      have hdigits := isDigit_of_isCanonicalDigits h
      isUnsignedNumeral_of_digits hdigits.1 hdigits.2
  constructor
  · rintro ⟨hbefore, hsign, hdigits, hafter⟩
    have hcanonical := (spellsPlainly_iff.mp hdigits).1
    have hread := (bigInteger?_of_spells hbefore hsign hdigits.spells hafter).1
    rw [List.append_assoc] at hread
    exact ⟨hframe.mp ⟨_, _, _, _, _, rfl, hbefore, hsign, hcanonical, hafter⟩, hread⟩
  · rintro ⟨hcanonical, hread⟩
    obtain ⟨before, sign, negative, digits, after, rfl, hbefore, hsign, hdigits, hafter⟩ :=
      hframe.mpr hcanonical
    have hplain : SpellsPlainly digits (decimalValue digits) :=
      spellsPlainly_iff.mpr ⟨hdigits, rfl⟩
    have hwritten := (bigInteger?_of_spells hbefore hsign hplain.spells hafter).1
    rw [List.append_assoc, hread] at hwritten
    rw [Option.some.inj hwritten]
    exact .intro hbefore hsign hplain hafter

/-- The texts in which an integer is written are those without leading zeros. -/
theorem exists_writesInteger_iff : (∃ i, WritesInteger t i) ↔ isCanonicalInteger t = true := by
  simp only [writesInteger_iff, exists_and_left]
  constructor
  · exact And.left
  · intro h
    exact ⟨h, Option.isSome_iff_exists.mp (isNumeral_of_isCanonicalInteger h).2⟩

end Text

/-! ## Safe integers as they are read -/

namespace Number

variable {t : Text} {i : Int}

theorem natAbs_le_maxSafeInteger_iff :
    i.natAbs ≤ maxSafeInteger ↔ -(2 ^ 53 - 1) ≤ i ∧ i ≤ 2 ^ 53 - 1 := by
  have hmax : maxSafeInteger = 9007199254740991 := by decide
  omega

/-- A numeral of any length is read as a safe integer just where it spells one. -/
theorem isSafeInteger_ofText_iff (h : Text.bigInteger? t = some i) :
    (ofText t).isSafeInteger = true ↔ i.natAbs ≤ maxSafeInteger := by
  rw [isSafeInteger_iff]
  constructor
  · rintro ⟨j, hread, hsafe⟩
    rwa [(toInt?_ofText_eq_some_iff h hsafe).mp hread]
  · intro hsafe
    exact ⟨i, (toInt?_ofText_eq_some_iff h hsafe).mpr rfl, hsafe⟩

/-- A number that is an integer is finite, and stands at it. -/
theorem exists_isInteger_of_toInt? {x : Number} (h : x.toInt? = some i) :
    ∃ y, x = .finite y ∧ y.IsInteger i := by
  cases x with
  | nan | infinite => cases h
  | finite y => exact ⟨y, rfl, FiniteNumber.isInteger_of_toInt? h⟩

end Number

/-! ## The texts that spell safe integers -/

namespace Value

variable {t : Text} {i : Int}

theorem isIntegerLike_text_iff_scan :
    (Value.text t).isIntegerLike = true ↔
      t.isCanonicalInteger = true ∧ (Number.ofText t).isSafeInteger = true :=
  Bool.and_eq_true_iff

/-- A text is a safe integer for the rules just where one is written in it: blanks, an optional
sign, digits without leading zeros and blanks, between `-(2 ^ 53 - 1)` and `2 ^ 53 - 1`. It is then
read as just that integer. A numeral of any length that spells an integer outside this range is read
as no integer inside it. The first part of the test is what the pattern of integers without leading
zeros finds, by every search with enough steps. -/
theorem isIntegerLike_text_iff :
    (∀ t : Text, (Value.text t).isIntegerLike = true ↔
      ∃ i, t.WritesInteger i ∧ -(2 ^ 53 - 1) ≤ i ∧ i ≤ 2 ^ 53 - 1) ∧
    (∀ (t : Text) (i : Int), t.WritesInteger i →
      ((Number.ofText t).isSafeInteger = true ↔ -(2 ^ 53 - 1) ≤ i ∧ i ≤ 2 ^ 53 - 1) ∧
      (-(2 ^ 53 - 1) ≤ i ∧ i ≤ 2 ^ 53 - 1 → ∃ x, Number.ofText t = .finite x ∧ x.IsInteger i)) ∧
    ∃ integer, Regex.compile? integerPattern [] = some integer ∧ ∀ t : Text,
      (integer.Finds t ↔ ∃ i, t.WritesInteger i) ∧
      ((Value.text t).isIntegerLike = true ↔
        integer.Finds t ∧ (Number.ofText t).isSafeInteger = true) ∧
      ∃ enough, ∀ steps, enough ≤ steps →
        (integer.testWithin steps t = true ↔ ∃ i, t.WritesInteger i) := by
  have hwritten (t : Text) (i : Int) (h : t.WritesInteger i) :
      ((Number.ofText t).isSafeInteger = true ↔ -(2 ^ 53 - 1) ≤ i ∧ i ≤ 2 ^ 53 - 1) := by
    rw [← Number.natAbs_le_maxSafeInteger_iff]
    exact Number.isSafeInteger_ofText_iff (Text.writesInteger_iff.mp h).2
  refine ⟨fun t => ?_, fun t i h => ⟨hwritten t i h, fun hrange => ?_⟩, Regex.integer,
    Regex.compile?_numericPatterns.2.2, fun t => ?_⟩
  · rw [isIntegerLike_text_iff_scan, ← Text.exists_writesInteger_iff]
    constructor
    · rintro ⟨⟨i, hi⟩, hsafe⟩
      exact ⟨i, hi, (hwritten t i hi).mp hsafe⟩
    · rintro ⟨i, hi, hrange⟩
      exact ⟨⟨i, hi⟩, (hwritten t i hi).mpr hrange⟩
  · have hsafe := Number.natAbs_le_maxSafeInteger_iff.mpr hrange
    exact Number.exists_isInteger_of_toInt?
      ((Number.toInt?_ofText_eq_some_iff (Text.writesInteger_iff.mp h).2 hsafe).mpr rfl)
  · have hfinds : Regex.integer.Finds t ↔ ∃ i, t.WritesInteger i :=
      Regex.finds_integer_iff.trans Text.exists_writesInteger_iff.symm
    obtain ⟨enough, htest⟩ := Regex.exists_testWithin_iff Regex.isPlain_numericPatterns.2.2 t
    refine ⟨hfinds, ?_, enough, fun steps hsteps => (htest steps hsteps).trans hfinds⟩
    rw [isIntegerLike_text_iff_scan, Regex.finds_integer_iff]

/-- The last safe integer, and one that is rounded to the first that is not safe. -/
example : (Value.ofString "-9007199254740991 ").isIntegerLike = true ∧
    (Value.ofString "9007199254740993").isIntegerLike = false := by
  decide +kernel

end Value

end FieldValidation
