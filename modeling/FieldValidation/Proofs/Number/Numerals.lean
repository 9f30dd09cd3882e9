import FieldValidation.Proofs.Number.Nearest
import FieldValidation.Proofs.Rule.Parsing
import FieldValidation.Proofs.Text.Digits
import FieldValidation.Rule.Numeral

/-!
# Numerals are read as numbers

A numeral is recognised by a scan that reads no value, and its number is read by cutting the text
at the exponent and at the point. The scan accepts only what is read, so a numeral is never
not-a-number. A run of digits with a sign is read as the double nearest to the integer it spells,
however long it is.

## Main definitions

* `Text.IsMantissa`: digits with or without a point, and what they are read as

## Main results

* `Text.exists_of_isUnsignedNumeral`: a numeral is cut into a mantissa and an exponent
* `Number.ofText_eq`: a numeral is read as the double nearest to a decimal
* `Number.ofText_ne_nan`: a numeral is a number
* `Number.place_ofText`: the number that an integer in digits is read as
-/

namespace FieldValidation

namespace Text

variable {t : Text}

/-! ## The units of a numeral -/

theorem snd_takeSign (t : Text) : (takeSign t).2 = dropSign t := by
  cases t with
  | nil => rfl
  | cons u rest =>
    by_cases hminus : u = unit '-'
    · simp [takeSign, dropSign, hminus]
    · by_cases hplus : u = unit '+'
      · subst hplus
        rfl
      · simp [takeSign, dropSign, hminus, hplus]

/-- A unit of the part of a numeral before the exponent. -/
def IsMantissaUnit (u : CodeUnit) : Prop := u.isDigit = true ∨ u = unit '.'

theorem IsMantissaUnit.not_mark {u : CodeUnit} (h : IsMantissaUnit u) :
    ¬ (u = unit 'e' ∨ u = unit 'E') := by
  rintro (rfl | rfl) <;> rcases h with h | h <;> revert h <;> decide

/-! ## Cutting a numeral -/

theorem cutAtExponent_append {mantissa : Text} (h : ∀ u ∈ mantissa, IsMantissaUnit u) (t : Text) :
    cutAtExponent (mantissa ++ t) =
      (mantissa ++ (cutAtExponent t).1, (cutAtExponent t).2) := by
  induction mantissa with
  | nil => rfl
  | cons u rest ih =>
    obtain ⟨hu, hrest⟩ := List.forall_mem_cons.mp h
    rw [List.cons_append, cutAtExponent, if_neg hu.not_mark, ih hrest]
    rfl

/-- An exponent is cut off and read. -/
theorem cutAtExponent_of_isExponent (h : isExponent t = true) :
    (cutAtExponent t = ([], none)) ∨
      ∃ power e, cutAtExponent t = ([], some power) ∧ Decimal.exponent? power = some e := by
  cases t with
  | nil => exact .inl rfl
  | cons u rest =>
    right
    simp only [isExponent, Bool.and_eq_true, Bool.or_eq_true, beq_iff_eq,
      Bool.not_eq_true'] at h
    obtain ⟨⟨hmark, hsome⟩, hdigits⟩ := h
    have hread : ∃ e, Decimal.exponent? rest = some e := by
      unfold Decimal.exponent?
      dsimp only
      rw [snd_takeSign, hsome, hdigits]
      exact ⟨_, rfl⟩
    obtain ⟨e, he⟩ := hread
    refine ⟨rest, e, ?_, he⟩
    rw [cutAtExponent, if_pos hmark]

/-- Digits are a mantissa. -/
theorem mantissa?_of_digits (hne : t ≠ []) (h : ∀ u ∈ t, u.isDigit = true) :
    Decimal.mantissa? t = some (decimalValue t, 0) := by
  have hpoint : unit '.' ∉ t := fun hmem => absurd (h _ hmem) (by decide)
  have hempty : t.isEmpty = false := by simpa using hne
  have hall : t.all CodeUnit.isDigit = true := List.all_eq_true.mpr h
  unfold Decimal.mantissa?
  rw [splitFirst?_of_not_mem hpoint]
  simp [hempty, hall]

/-- Digits on either side of a point are a mantissa, unless there are none. -/
theorem mantissa?_of_point {whole fraction : Text} (hne : whole ++ fraction ≠ [])
    (hwhole : ∀ u ∈ whole, u.isDigit = true) (hfraction : ∀ u ∈ fraction, u.isDigit = true) :
    Decimal.mantissa? (whole ++ unit '.' :: fraction) =
      some (decimalValue (whole ++ fraction), fraction.length) := by
  have hpoint : unit '.' ∉ whole := fun hmem => absurd (hwhole _ hmem) (by decide)
  have hempty : (whole ++ fraction).isEmpty = false := by simpa using hne
  have hall : (whole ++ fraction).all CodeUnit.isDigit = true :=
    List.all_eq_true.mpr (List.forall_mem_append.mpr ⟨hwhole, hfraction⟩)
  unfold Decimal.mantissa?
  rw [splitFirst?_append hpoint]
  simp [hempty, hall]

/-! ## Mantissas and numerals -/

section Mantissa

variable {digits whole fraction exponent : Text} {value places : Nat}

/-- Digits with or without a point: what they are read as, and that an exponent may follow. -/
structure IsMantissa (t : Text) (value places : Nat) : Prop where
  mantissa?_eq : Decimal.mantissa? t = some (value, places)
  units : ∀ u ∈ t, IsMantissaUnit u
  isUnsignedNumeral_append : ∀ exponent, isExponent exponent = true →
    isUnsignedNumeral (t ++ exponent) = true

theorem head?_of_isExponent (h : isExponent exponent = true) :
    ∀ u ∈ exponent.head?, u.isDigit = false := by
  intro u hu
  cases exponent with
  | nil => cases hu
  | cons v rest =>
    obtain rfl : v = u := Option.some.inj hu
    simp only [isExponent, Bool.and_eq_true, Bool.or_eq_true, beq_iff_eq] at h
    rcases h.1.1 with rfl | rfl <;> decide

/-- Digits are told from what follows them, unless a digit follows. -/
theorem span_digits (hdigits : ∀ u ∈ digits, u.isDigit = true)
    (h : ∀ u ∈ t.head?, u.isDigit = false) :
    (digits ++ t).takeWhile CodeUnit.isDigit = digits ∧
      (digits ++ t).dropWhile CodeUnit.isDigit = t := by
  rw [List.takeWhile_append_of_pos hdigits, List.dropWhile_append_of_pos hdigits]
  cases t with
  | nil => simp
  | cons u rest =>
    have hu : ¬ u.isDigit = true := by simp [h u rfl]
    rw [List.takeWhile_cons_of_neg hu, List.dropWhile_cons_of_neg hu, List.append_nil]
    exact ⟨rfl, rfl⟩

theorem isMantissa_of_digits (hne : digits ≠ []) (h : ∀ u ∈ digits, u.isDigit = true) :
    IsMantissa digits (decimalValue digits) 0 where
  mantissa?_eq := mantissa?_of_digits hne h
  units u hu := .inl (h u hu)
  isUnsignedNumeral_append exponent hexponent := by
    obtain ⟨htake, hdrop⟩ := span_digits h (head?_of_isExponent hexponent)
    have hsome : digits.isEmpty = false := by simpa using hne
    unfold isUnsignedNumeral
    rw [htake, hdrop]
    cases exponent with
    | nil => simp [hsome]
    | cons u rest =>
      have hpoint : u ≠ unit '.' := by
        rintro rfl
        cases hexponent
      simp [hpoint, hsome, hexponent]

theorem isMantissa_of_point (hne : whole ++ fraction ≠ [])
    (hwhole : ∀ u ∈ whole, u.isDigit = true) (hfraction : ∀ u ∈ fraction, u.isDigit = true) :
    IsMantissa (whole ++ unit '.' :: fraction) (decimalValue (whole ++ fraction))
      fraction.length where
  mantissa?_eq := mantissa?_of_point hne hwhole hfraction
  units u hu := by
    rcases List.mem_append.mp hu with hu | hu
    · exact .inl (hwhole u hu)
    · rcases List.mem_cons.mp hu with rfl | hu
      · exact .inr rfl
      · exact .inl (hfraction u hu)
  isUnsignedNumeral_append exponent hexponent := by
    have hpoint : ∀ u ∈ (unit '.' :: (fraction ++ exponent)).head?, u.isDigit = false := by
      rintro u ⟨⟩
      decide
    obtain ⟨htake, hdrop⟩ := span_digits hwhole hpoint
    obtain ⟨htake', hdrop'⟩ := span_digits hfraction (head?_of_isExponent hexponent)
    have hsome : (whole.isEmpty && fraction.isEmpty) = false := by simpa using hne
    rw [List.append_assoc, List.cons_append]
    unfold isUnsignedNumeral
    rw [htake, hdrop]
    simp [htake', hdrop', hsome, hexponent]

theorem IsMantissa.isUnsignedNumeral (h : IsMantissa t value places) :
    isUnsignedNumeral t = true := by
  have hnone := h.isUnsignedNumeral_append [] rfl
  rwa [List.append_nil] at hnone

/-- A numeral without a sign is a mantissa with an exponent after it, which may be empty. -/
theorem exists_of_isUnsignedNumeral (h : isUnsignedNumeral t = true) :
    ∃ mantissa exponent value places, t = mantissa ++ exponent ∧
      IsMantissa mantissa value places ∧ isExponent exponent = true := by
  have hwhole : ∀ u ∈ t.takeWhile CodeUnit.isDigit, u.isDigit = true :=
    List.all_eq_true.mp (List.all_takeWhile ..)
  have hsplit : t = t.takeWhile CodeUnit.isDigit ++ t.dropWhile CodeUnit.isDigit :=
    List.takeWhile_append_dropWhile.symm
  unfold isUnsignedNumeral at h
  generalize t.takeWhile CodeUnit.isDigit = whole at h hwhole hsplit
  generalize t.dropWhile CodeUnit.isDigit = rest at h hsplit
  subst hsplit
  cases rest with
  | nil =>
    have hne : whole ≠ [] := by simpa using h
    exact ⟨whole, [], _, _, rfl, isMantissa_of_digits hne hwhole, rfl⟩
  | cons u rest =>
    dsimp only at h
    split at h
    · next hpoint =>
      have hfraction : ∀ u ∈ rest.takeWhile CodeUnit.isDigit, u.isDigit = true :=
        List.all_eq_true.mp (List.all_takeWhile ..)
      rw [Bool.and_eq_true] at h
      have hne : whole ++ rest.takeWhile CodeUnit.isDigit ≠ [] := by
        intro hnil
        obtain ⟨hnone, hnone'⟩ := List.append_eq_nil_iff.mp hnil
        rw [hnone, hnone'] at h
        exact absurd h.1 (by decide)
      refine ⟨whole ++ unit '.' :: rest.takeWhile CodeUnit.isDigit,
        rest.dropWhile CodeUnit.isDigit, _, _, ?_, isMantissa_of_point hne hwhole hfraction, h.2⟩
      rw [List.append_assoc, List.cons_append, List.takeWhile_append_dropWhile, hpoint]
    · rw [Bool.and_eq_true] at h
      have hne : whole ≠ [] := by simpa using h.1
      exact ⟨whole, u :: rest, _, _, rfl, isMantissa_of_digits hne hwhole, h.2⟩

end Mantissa

/-- A numeral without a sign begins with a digit or a point, and no letter of a base follows. -/
theorem head_of_isUnsignedNumeral (h : isUnsignedNumeral t = true) :
    ∃ u rest, t = u :: rest ∧ IsMantissaUnit u ∧
      ∀ v ∈ rest.head?, Number.baseOfLetter? v = none := by
  obtain ⟨mantissa, exponent, value, places, rfl, hmantissa, hexponent⟩ :=
    exists_of_isUnsignedNumeral h
  have hunit {v : CodeUnit} (hv : IsMantissaUnit v) : Number.baseOfLetter? v = none := by
    unfold Number.baseOfLetter?
    rw [if_neg, if_neg, if_neg] <;>
      · rintro (rfl | rfl) <;> revert hv <;> unfold IsMantissaUnit <;> decide
  match mantissa with
  | [] => cases hmantissa.mantissa?_eq
  | [u] =>
    refine ⟨u, exponent, rfl, hmantissa.units u (by simp), ?_⟩
    intro v hv
    cases exponent with
    | nil => cases hv
    | cons w rest =>
      obtain rfl : w = v := Option.some.inj hv
      simp only [isExponent, Bool.and_eq_true, Bool.or_eq_true, beq_iff_eq] at hexponent
      rcases hexponent.1.1 with rfl | rfl <;> decide
  | u :: v :: rest =>
    refine ⟨u, v :: rest ++ exponent, rfl, hmantissa.units u (by simp), ?_⟩
    intro w hw
    obtain rfl : v = w := Option.some.inj hw
    exact hunit (hmantissa.units v (by simp))

/-- A numeral does not begin with a sign. -/
theorem takeSign_of_isUnsignedNumeral (h : isUnsignedNumeral t = true) :
    takeSign t = (false, t) := by
  obtain ⟨u, rest, rfl, hu, -⟩ := head_of_isUnsignedNumeral h
  have hminus : u ≠ unit '-' := by
    rintro rfl
    rcases hu with hu | hu <;> revert hu <;> decide
  have hplus : u ≠ unit '+' := by
    rintro rfl
    rcases hu with hu | hu <;> revert hu <;> decide
  rw [takeSign, if_neg hminus, if_neg hplus]

/-- An integer is read off digits with or without a sign. -/
theorem bigInteger?_eq_some_iff {i : Int} :
    bigInteger? t = some i ↔
      (takeSign (trim t)).2 ≠ [] ∧ (∀ u ∈ (takeSign (trim t)).2, u.isDigit = true) ∧
        signed (takeSign (trim t)).1 (decimalValue (takeSign (trim t)).2) = i := by
  unfold bigInteger?
  dsimp only
  generalize takeSign (trim t) = parts
  by_cases hrun : parts.2 ≠ [] ∧ ∀ u ∈ parts.2, u.isDigit = true
  · have hdigits : (parts.2.isEmpty || !parts.2.all CodeUnit.isDigit) = false := by
      simpa using hrun
    rw [hdigits, ← and_assoc, and_iff_right hrun]
    exact Option.some_inj
  · have hnone : (parts.2.isEmpty || !parts.2.all CodeUnit.isDigit) = true := by
      rw [← Bool.not_eq_false]
      exact fun hdigits => hrun (by simpa using hdigits)
    rw [hnone, ← and_assoc]
    exact ⟨nofun, fun h => absurd h.1 hrun⟩

/-- Digits are a numeral. -/
theorem isUnsignedNumeral_of_digits (hne : t ≠ []) (h : ∀ u ∈ t, u.isDigit = true) :
    isUnsignedNumeral t = true :=
  (isMantissa_of_digits hne h).isUnsignedNumeral

end Text

/-! ## The number of a numeral -/

/-- A numeral without a sign, after an optional sign, is a decimal. -/
theorem Decimal.exists_ofText? {t : Text} (h : Text.isUnsignedNumeral (Text.dropSign t) = true) :
    ∃ x, Decimal.ofText? t = some x := by
  obtain ⟨mantissa, exponent, value, places, ht, hmantissa, hexponent⟩ :=
    Text.exists_of_isUnsignedNumeral h
  have hcut := Text.cutAtExponent_append hmantissa.units exponent
  have hvalue := hmantissa.mantissa?_eq
  unfold Decimal.ofText?
  simp only [Text.snd_takeSign, ht, hcut]
  rcases Text.cutAtExponent_of_isExponent hexponent with hnone | ⟨power, e, hpower, he⟩
  · simp [hnone, hvalue]
  · simp [hpower, hvalue, he]

theorem Decimal.nearest_ne_nan (x : Decimal) : x.nearest ≠ .nan := by
  unfold Decimal.nearest
  repeat' split
  all_goals first | exact Number.ofRatio_ne_nan _ _ _ | simp

namespace Number

/-- A text that does not begin as a literal in another base is read as a decimal. -/
theorem ofTrimmed_of_not_base {t : Text} (hne : t ≠ [])
    (h : ∀ letter digits, t = unit '0' :: letter :: digits → baseOfLetter? letter = none) :
    ofTrimmed t = ofDecimalText t := by
  match t with
  | [] => exact absurd rfl hne
  | [_] => rfl
  | zeroUnit :: letter :: digits =>
    have hbase : (if zeroUnit = unit '0' then baseOfLetter? letter else none) = none := by
      split
      · next hzero => exact h letter digits (by rw [hzero])
      · rfl
    simp only [ofTrimmed, hbase]

/-- A numeral is read as a decimal. -/
theorem ofText_eq {t : Text} (h : Text.isNumeral t = true) :
    ∃ x, Decimal.ofText? (Text.trim t) = some x ∧ ofText t = x.nearest := by
  obtain ⟨x, hx⟩ := Decimal.exists_ofText? h
  refine ⟨x, hx, ?_⟩
  obtain ⟨u, rest, hunsigned, hu, hletter⟩ := Text.head_of_isUnsignedNumeral h
  have hdecimal : ofDecimalText (Text.trim t) = x.nearest := by
    have hnot : Text.dropSign (Text.trim t) ≠ Text.ofString "Infinity" := by
      rw [hunsigned]
      intro heq
      obtain rfl := (List.cons.inj heq).1
      revert hu
      unfold Text.IsMantissaUnit
      decide
    unfold ofDecimalText
    simp only [Text.snd_takeSign, if_neg hnot, hx]
  rw [← hdecimal]
  apply ofTrimmed_of_not_base
  · intro hnil
    rw [hnil] at hunsigned
    cases hunsigned
  · intro letter digits ht
    rw [ht] at hunsigned
    obtain rfl : letter :: digits = rest := (List.cons.inj hunsigned).2
    exact hletter letter rfl

/-- A numeral is a number. -/
theorem ofText_ne_nan {t : Text} (h : Text.isNumeral t = true) : ofText t ≠ .nan := by
  obtain ⟨x, -, hx⟩ := ofText_eq h
  rw [hx]
  exact x.nearest_ne_nan

/-- An integer in digits is read as the double nearest to it, whatever its size. -/
theorem place_ofText {t : Text} {i : Int} (h : Text.bigInteger? t = some i) :
    (ofText t).place = (ofInt i).place := by
  obtain ⟨hne, hall, rfl⟩ := Text.bigInteger?_eq_some_iff.mp h
  have hnumeral : Text.isNumeral t = true := by
    unfold Text.isNumeral
    rw [← Text.snd_takeSign]
    exact Text.isUnsignedNumeral_of_digits hne hall
  obtain ⟨x, hx, hread⟩ := ofText_eq hnumeral
  have hcut : Text.cutAtExponent (Text.takeSign (Text.trim t)).2 =
      ((Text.takeSign (Text.trim t)).2, none) := by
    simpa [Text.cutAtExponent] using Text.cutAtExponent_append (fun u hu => .inl (hall u hu)) []
  unfold Decimal.ofText? at hx
  simp only [hcut, Text.mantissa?_of_digits hne hall, Option.map_none, Option.some.injEq] at hx
  rw [hread, ← hx]
  exact place_nearest _ _

end Number

end FieldValidation
