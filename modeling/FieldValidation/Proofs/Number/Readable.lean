import FieldValidation.Proofs.Number.Numerals

/-!
# The texts that are read as numbers

A text is read as a number if it is blank, an infinity, a literal in a base other than ten, or a
numeral, and no numeral is any of the others. That the scan for numerals accepts all that is read
as a decimal is seen by following the way a decimal is read: it is cut at the mark of the exponent,
its mantissa at the point, and the parts that are left have to be the digits that the scan asks for.

## Main definitions

* `Text.IsInfinity`: an infinity with or without a sign
* `Text.IsRadixLiteral`: a literal in base sixteen, eight or two

## Main results

* `Text.exists_isMantissa_iff`: the shapes of a mantissa
* `Decimal.isSome_ofText?_iff`: what is read as a decimal is a numeral with or without a sign
* `Number.ofText_ne_nan_iff`: what is read as a number
* `Text.isNumeral_iff_reads`: the numerals among the texts that are read as numbers
-/

namespace FieldValidation

namespace Text

variable {t power : Text} {mark : CodeUnit}

/-! ## The parts of a decimal -/

theorem not_noDigits_iff :
    ¬ (t.isEmpty || !t.all CodeUnit.isDigit) = true ↔ t ≠ [] ∧ ∀ u ∈ t, u.isDigit = true := by
  simp

/-- A mantissa is digits, or digits on either side of a point, unless there are none. -/
theorem shape_of_mantissa? {value places : Nat} (h : Decimal.mantissa? t = some (value, places)) :
    (t ≠ [] ∧ ∀ u ∈ t, u.isDigit = true) ∨
      ∃ whole fraction, t = whole ++ unit '.' :: fraction ∧ whole ++ fraction ≠ [] ∧
        (∀ u ∈ whole, u.isDigit = true) ∧ ∀ u ∈ fraction, u.isDigit = true := by
  unfold Decimal.mantissa? at h
  cases hsplit : splitFirst? (unit '.') t with
  | none =>
    rw [hsplit] at h
    dsimp only [Option.getD_none] at h
    split at h
    · cases h
    · next hrun =>
      rw [not_noDigits_iff, List.append_nil] at hrun
      exact .inl hrun
  | some parts =>
    rw [hsplit] at h
    dsimp only [Option.getD_some] at h
    split at h
    · cases h
    · next hrun =>
      obtain ⟨hne, hdigits⟩ := not_noDigits_iff.mp hrun
      exact .inr ⟨parts.1, parts.2, eq_of_splitFirst? hsplit, hne,
        List.forall_mem_append.mp hdigits⟩

theorem exists_isMantissa_iff :
    (∃ value places, IsMantissa t value places) ↔
      (t ≠ [] ∧ ∀ u ∈ t, u.isDigit = true) ∨
        ∃ whole fraction, t = whole ++ unit '.' :: fraction ∧ whole ++ fraction ≠ [] ∧
          (∀ u ∈ whole, u.isDigit = true) ∧ ∀ u ∈ fraction, u.isDigit = true := by
  constructor
  · rintro ⟨value, places, h⟩
    exact shape_of_mantissa? h.mantissa?_eq
  · rintro (⟨hne, hdigits⟩ | ⟨whole, fraction, rfl, hne, hwhole, hfraction⟩)
    · exact ⟨_, _, isMantissa_of_digits hne hdigits⟩
    · exact ⟨_, _, isMantissa_of_point hne hwhole hfraction⟩

theorem isMantissa_of_mantissa? (h : (Decimal.mantissa? t).isSome = true) :
    ∃ value places, IsMantissa t value places := by
  obtain ⟨⟨value, places⟩, hread⟩ := Option.isSome_iff_exists.mp h
  exact exists_isMantissa_iff.mpr (shape_of_mantissa? hread)

/-- A numeral without a sign is a mantissa with an exponent after it, which may be empty. -/
theorem isUnsignedNumeral_iff :
    isUnsignedNumeral t = true ↔
      ∃ mantissa exponent, t = mantissa ++ exponent ∧
        (∃ value places, IsMantissa mantissa value places) ∧ isExponent exponent = true := by
  constructor
  · intro h
    obtain ⟨mantissa, exponent, value, places, ht, hmantissa, hexponent⟩ :=
      exists_of_isUnsignedNumeral h
    exact ⟨mantissa, exponent, ht, ⟨value, places, hmantissa⟩, hexponent⟩
  · rintro ⟨mantissa, exponent, rfl, ⟨value, places, hmantissa⟩, hexponent⟩
    exact hmantissa.isUnsignedNumeral_append exponent hexponent

/-- A text is cut at the mark of an exponent, if it has one. -/
theorem of_cutAtExponent {mantissa : Text} {power : Option Text}
    (h : cutAtExponent t = (mantissa, power)) :
    (t = mantissa ∧ power = none) ∨
      ∃ mark rest, t = mantissa ++ mark :: rest ∧ (mark = unit 'e' ∨ mark = unit 'E') ∧
        power = some rest := by
  induction t generalizing mantissa with
  | nil =>
    obtain ⟨rfl, rfl⟩ := Prod.mk.inj h
    exact .inl ⟨rfl, rfl⟩
  | cons u rest ih =>
    unfold cutAtExponent at h
    split at h
    · next hmark =>
      obtain ⟨rfl, rfl⟩ := Prod.mk.inj h
      exact .inr ⟨u, rest, rfl, hmark, rfl⟩
    · obtain ⟨rfl, rfl⟩ := Prod.mk.inj h
      rcases ih rfl with ⟨hrest, hpower⟩ | ⟨mark, after, hrest, hmark, hpower⟩
      · exact .inl ⟨by rw [← hrest], hpower⟩
      · exact .inr ⟨mark, after, by rw [List.cons_append, ← hrest], hmark, hpower⟩

/-- What is read after the mark is an exponent. -/
theorem isExponent_of_exponent? (hmark : mark = unit 'e' ∨ mark = unit 'E')
    (h : (Decimal.exponent? power).isSome = true) : isExponent (mark :: power) = true := by
  have hrun : dropSign power ≠ [] ∧ ∀ u ∈ dropSign power, u.isDigit = true := by
    unfold Decimal.exponent? at h
    dsimp only at h
    split at h
    · cases h
    · next hrun => rwa [not_noDigits_iff, snd_takeSign] at hrun
  simp only [isExponent, Bool.and_eq_true, Bool.or_eq_true, beq_iff_eq, Bool.not_eq_true',
    List.isEmpty_eq_false_iff, List.all_eq_true]
  exact ⟨⟨hmark, hrun.1⟩, hrun.2⟩

end Text

/-- What is read as a decimal is a numeral after an optional sign. -/
theorem Decimal.isSome_ofText?_iff {t : Text} :
    (Decimal.ofText? t).isSome = true ↔ Text.isUnsignedNumeral (Text.dropSign t) = true := by
  constructor
  · intro h
    unfold Decimal.ofText? at h
    dsimp only at h
    rw [Text.snd_takeSign] at h
    generalize Text.dropSign t = unsigned at h
    cases hcut : Text.cutAtExponent unsigned with
    | mk mantissa power =>
      rw [hcut] at h
      dsimp only at h
      have hmantissa : ∃ value places, Text.IsMantissa mantissa value places := by
        apply Text.isMantissa_of_mantissa?
        cases hread : mantissa? mantissa with
        | none => simp [hread] at h
        | some _ => rfl
      refine Text.isUnsignedNumeral_iff.mpr ?_
      rcases Text.of_cutAtExponent hcut with ⟨rfl, rfl⟩ | ⟨mark, rest, rfl, hmark, rfl⟩
      · exact ⟨unsigned, [], by rw [List.append_nil], hmantissa, rfl⟩
      · refine ⟨mantissa, mark :: rest, rfl, hmantissa, Text.isExponent_of_exponent? hmark ?_⟩
        cases hread : exponent? rest with
        | none => simp [hread] at h
        | some _ => rfl
  · intro h
    obtain ⟨x, hx⟩ := Decimal.exists_ofText? h
    rw [hx]
    rfl

/-! ## Infinities and other bases -/

namespace Text

variable {t : Text}

/-- An infinity, with or without a sign. -/
def IsInfinity (t : Text) : Prop :=
  t = ofString "Infinity" ∨ t = ofString "+Infinity" ∨ t = ofString "-Infinity"

/-- The letters for the bases other than ten, in either case. -/
inductive IsRadix : CodeUnit → Nat → Prop where
  | hexadecimal {letter : CodeUnit} (h : letter = unit 'x' ∨ letter = unit 'X') : IsRadix letter 16
  | octal {letter : CodeUnit} (h : letter = unit 'o' ∨ letter = unit 'O') : IsRadix letter 8
  | binary {letter : CodeUnit} (h : letter = unit 'b' ∨ letter = unit 'B') : IsRadix letter 2

/-- A zero with the letter of a base after it. -/
def BeginsWithRadix (t : Text) : Prop :=
  ∃ letter base digits, t = unit '0' :: letter :: digits ∧ IsRadix letter base

/-- A literal in a base other than ten: a zero, the letter of the base and digits in it. -/
def IsRadixLiteral (t : Text) : Prop :=
  ∃ letter base digits, t = unit '0' :: letter :: digits ∧ IsRadix letter base ∧ digits ≠ [] ∧
    ∀ u ∈ digits, ∃ d, u.hexValue? = some d ∧ d < base

theorem isRadix_iff {letter : CodeUnit} {base : Nat} :
    IsRadix letter base ↔ Number.baseOfLetter? letter = some base := by
  unfold Number.baseOfLetter?
  constructor
  · rintro (hletter | hletter | hletter) <;> rcases hletter with rfl | rfl <;> rfl
  · intro h
    split at h
    · next hletter =>
      obtain rfl := Option.some.inj h
      exact .hexadecimal hletter
    · split at h
      · next hletter =>
        obtain rfl := Option.some.inj h
        exact .octal hletter
      · split at h
        · next hletter =>
          obtain rfl := Option.some.inj h
          exact .binary hletter
        · cases h

theorem IsRadixLiteral.beginsWithRadix (h : IsRadixLiteral t) : BeginsWithRadix t := by
  obtain ⟨letter, base, digits, ht, hletter, -⟩ := h
  exact ⟨letter, base, digits, ht, hletter⟩

theorem dropSign_eq_infinity_iff : dropSign t = ofString "Infinity" ↔ IsInfinity t := by
  constructor
  · intro h
    cases t with
    | nil => cases h
    | cons u rest =>
      by_cases hsign : u = unit '+' ∨ u = unit '-'
      · rw [dropSign, if_pos hsign] at h
        rcases hsign with rfl | rfl
        · exact .inr (.inl (h ▸ rfl))
        · exact .inr (.inr (h ▸ rfl))
      · rw [dropSign, if_neg hsign] at h
        exact .inl h
  · rintro (rfl | rfl | rfl) <;> rfl

/-- A zero with the letter of a base begins no numeral and no infinity. -/
theorem BeginsWithRadix.not_decimal (h : BeginsWithRadix t) :
    ¬ IsInfinity t ∧ isUnsignedNumeral (dropSign t) = false := by
  obtain ⟨letter, base, digits, rfl, hletter⟩ := h
  constructor
  · rintro (h | h | h) <;> exact absurd (List.cons.inj h).1 (by decide)
  · rw [← Bool.not_eq_true]
    intro hnumeral
    obtain ⟨u, rest, htext, -, hnone⟩ := head_of_isUnsignedNumeral hnumeral
    have hrest : letter :: digits = rest := (List.cons.inj htext).2
    have hbase := hnone letter (by rw [← hrest]; rfl)
    rw [isRadix_iff.mp hletter] at hbase
    cases hbase

/-- A numeral is no infinity, and it is not empty. -/
theorem not_isInfinity_of_isUnsignedNumeral (h : isUnsignedNumeral (dropSign t) = true) :
    t ≠ [] ∧ ¬ IsInfinity t := by
  refine ⟨?_, fun hinfinity => ?_⟩
  · rintro rfl
    cases h
  · rw [dropSign_eq_infinity_iff.mpr hinfinity] at h
    exact absurd h (by decide)

end Text

/-! ## What is read as a number -/

namespace Number

variable {t : Text}

theorem ofDecimalText_ne_nan_iff :
    ofDecimalText t ≠ .nan ↔
      t.IsInfinity ∨ Text.isUnsignedNumeral (Text.dropSign t) = true := by
  rw [← Text.dropSign_eq_infinity_iff, ← Decimal.isSome_ofText?_iff]
  unfold ofDecimalText
  dsimp only
  rw [Text.snd_takeSign]
  split
  · next hinfinity => simp [hinfinity]
  · next hinfinity =>
    cases hread : Decimal.ofText? t with
    | none => simp [hinfinity]
    | some x => simp [x.nearest_ne_nan]

theorem ofDigits_ne_nan_iff {base : Nat} {digits : Text} :
    ofDigits base digits ≠ .nan ↔
      digits ≠ [] ∧ ∀ u ∈ digits, ∃ d, u.hexValue? = some d ∧ d < base := by
  have hdigit (v : Option Nat) : v.any (· < base) = true ↔ ∃ d, v = some d ∧ d < base := by
    cases v <;> simp
  have hvalues : ((digits.map CodeUnit.hexValue?).isEmpty ||
      !(digits.map CodeUnit.hexValue?).all fun v => v.any (· < base)) = false ↔
        digits ≠ [] ∧ ∀ u ∈ digits, ∃ d, u.hexValue? = some d ∧ d < base := by
    simp [hdigit]
  rw [← hvalues]
  unfold ofDigits
  dsimp only
  split
  · next hnone => exact iff_of_false (absurd rfl) (by rw [hnone]; decide)
  · next hall => exact iff_of_true (ofRatio_ne_nan _ _ _) (eq_false_of_ne_true hall)

/-- A zero with the letter of a base after it is read in this base. -/
theorem ofTrimmed_of_radix {letter : CodeUnit} {base : Nat} (h : Text.IsRadix letter base)
    (digits : Text) : ofTrimmed (unit '0' :: letter :: digits) = ofDigits base digits := by
  rw [ofTrimmed, if_pos rfl, Text.isRadix_iff.mp h]

/-- Any other text that is not empty is read as a decimal. -/
theorem ofTrimmed_of_not_radix (hne : t ≠ []) (h : ¬ t.BeginsWithRadix) :
    ofTrimmed t = ofDecimalText t := by
  apply ofTrimmed_of_not_base hne
  intro letter digits ht
  rw [Option.eq_none_iff_forall_ne_some]
  intro base hbase
  exact h ⟨letter, base, digits, ht, Text.isRadix_iff.mpr hbase⟩

/-- What is read as a number, of the texts without blanks around them. -/
theorem ofTrimmed_ne_nan_iff :
    ofTrimmed t ≠ .nan ↔
      t = [] ∨ t.IsInfinity ∨ t.IsRadixLiteral ∨
        Text.isUnsignedNumeral (Text.dropSign t) = true := by
  by_cases hne : t = []
  · subst hne
    exact iff_of_true nofun (.inl rfl)
  · rw [or_iff_right hne]
    by_cases hradix : t.BeginsWithRadix
    · obtain ⟨hinfinity, hnumeral⟩ := hradix.not_decimal
      obtain ⟨letter, base, digits, rfl, hletter⟩ := hradix
      rw [ofTrimmed_of_radix hletter, ofDigits_ne_nan_iff, or_iff_right hinfinity, hnumeral]
      constructor
      · exact fun hdigits => .inl ⟨letter, base, digits, rfl, hletter, hdigits⟩
      · rintro (⟨letter', base', digits', ht, hletter', hdigits⟩ | hfalse)
        · obtain ⟨rfl, rfl⟩ := List.cons.inj (List.cons.inj ht).2
          rw [Text.isRadix_iff] at hletter hletter'
          rwa [Option.some.inj (hletter.symm.trans hletter')]
        · cases hfalse
    · have hliteral := mt Text.IsRadixLiteral.beginsWithRadix hradix
      rw [ofTrimmed_of_not_radix hne hradix, ofDecimalText_ne_nan_iff, or_iff_right hliteral]

/-- A text is read as a number if it is blank, and if it is an infinity, a literal in another base
or a numeral between blanks. -/
theorem ofText_ne_nan_iff :
    ofText t ≠ .nan ↔
      t.trim = [] ∨ t.trim.IsInfinity ∨ t.trim.IsRadixLiteral ∨ t.isNumeral = true :=
  ofTrimmed_ne_nan_iff

end Number

/-- The numerals are the texts that are read as numbers and are neither blank nor an infinity nor a
literal in another base. -/
theorem Text.isNumeral_iff_reads {t : Text} :
    t.isNumeral = true ↔
      t.trim ≠ [] ∧ Number.ofText t ≠ .nan ∧ ¬ t.trim.IsInfinity ∧ ¬ t.trim.IsRadixLiteral := by
  rw [Number.ofText_ne_nan_iff]
  constructor
  · intro h
    obtain ⟨hne, hinfinity⟩ := not_isInfinity_of_isUnsignedNumeral h
    refine ⟨hne, .inr (.inr (.inr h)), hinfinity, fun hliteral => ?_⟩
    have hfalse := hliteral.beginsWithRadix.not_decimal.2
    rw [show isUnsignedNumeral (dropSign t.trim) = true from h] at hfalse
    cases hfalse
  · rintro ⟨hne, hreads, hinfinity, hliteral⟩
    exact ((hreads.resolve_left hne).resolve_left hinfinity).resolve_left hliteral

end FieldValidation
