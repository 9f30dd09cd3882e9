import FieldValidation.Number.Written
import FieldValidation.Proofs.Number.Numerals
import FieldValidation.Proofs.Number.Shortest
import FieldValidation.Proofs.Text.Blank

/-!
# What is written of a number is read as the number

A number is written in one of four layouts: its digits with zeros after them, with the point among
them, with zeros before them, or with an exponent. Each layout is a mantissa with or without an
exponent, so it is recognised as a numeral, and it is read as a decimal of the same value as the
digits that are laid out. These read back as the number.

## Main definitions

* `Text.IsRun`: a run of digits
* `Text.ReadsAs`: a numeral without a sign, and the decimal that it is read as

## Main results

* `Number.exists_readsAs_layout`: a layout of digits is read as a decimal of their value
* `Number.isNumeral_written`, `Number.place_ofText_written`: what is written of a finite number is a
  numeral, and is read as the number
* `Number.unblank_written`, `Number.written_ne_nil`: what is written of a number is there, without
  blanks
-/

namespace FieldValidation

namespace Text

variable {t digits : Text} {value places : Nat}

/-! ## Numerals without a sign -/

/-- A numeral without a sign, and the decimal that it is read as when a sign stands before it. -/
structure ReadsAs (t : Text) (value : Nat) (power : Int) : Prop where
  isUnsigned : isUnsignedNumeral t = true
  ofText?_eq : ∀ {s : Text} {negative : Bool}, takeSign s = (negative, t) →
    Decimal.ofText? s = some ⟨negative, value, power⟩
  unblank : ∀ u ∈ t, u.isBlank = false

theorem IsMantissaUnit.unblank {u : CodeUnit} (h : IsMantissaUnit u) : u.isBlank = false := by
  rcases h with hdigit | rfl
  · exact CodeUnit.isBlank_of_isDigit hdigit
  · decide

theorem IsMantissa.readsAs (h : IsMantissa t value places) : ReadsAs t value (-places) where
  isUnsigned := h.isUnsignedNumeral
  ofText?_eq hsign := by
    have hcut := cutAtExponent_append h.units []
    rw [List.append_nil] at hcut
    unfold Decimal.ofText?
    simp [hsign, hcut, cutAtExponent, h.mantissa?_eq]
  unblank u hu := (h.units u hu).unblank

/-- A text is a run of digits, of at least one. -/
def IsRun (t : Text) : Prop := t.isEmpty = false ∧ t.all CodeUnit.isDigit = true

theorem isRun_ofNat (n : Nat) : IsRun (ofNat n) :=
  ⟨List.isEmpty_eq_false_iff.mpr (ofNat_ne_nil n), List.all_eq_true.mpr fun _ => isDigit_ofNat⟩

/-- An exponent as it is written: with its sign. -/
def writtenExponent (power : Int) : Text :=
  unit 'e' :: (if power < 0 then unit '-' else unit '+') :: ofNat power.natAbs

theorem isExponent_writtenExponent (power : Int) : isExponent (writtenExponent power) = true := by
  have hsign : dropSign ((if power < 0 then unit '-' else unit '+') :: ofNat power.natAbs) =
      ofNat power.natAbs := by
    split <;> rfl
  obtain ⟨hsome, hall⟩ := isRun_ofNat power.natAbs
  rw [writtenExponent, isExponent]
  simp [hsign, hsome, hall]

theorem exponent?_written (power : Int) :
    Decimal.exponent? ((if power < 0 then unit '-' else unit '+') :: ofNat power.natAbs) =
      some power := by
  obtain ⟨hsome, hall⟩ := isRun_ofNat power.natAbs
  unfold Decimal.exponent?
  by_cases hneg : power < 0
  · have hsign : takeSign (unit '-' :: ofNat power.natAbs) = (true, ofNat power.natAbs) := rfl
    have hvalue : -(power.natAbs : Int) = power := by omega
    simp only [if_pos hneg, hsign, hsome, hall, decimalValue_ofNat]
    exact congrArg some hvalue
  · have hsign : takeSign (unit '+' :: ofNat power.natAbs) = (false, ofNat power.natAbs) := rfl
    have hvalue : (power.natAbs : Int) = power := by omega
    simp only [if_neg hneg, hsign, hsome, hall, decimalValue_ofNat]
    exact congrArg some hvalue

theorem IsMantissa.readsAs_exponent (h : IsMantissa t value places) (power : Int) :
    ReadsAs (t ++ writtenExponent power) value (power - places) where
  isUnsigned := h.isUnsignedNumeral_append _ (isExponent_writtenExponent power)
  ofText?_eq hsign := by
    have hcut : cutAtExponent (writtenExponent power) =
        ([], some ((if power < 0 then unit '-' else unit '+') :: ofNat power.natAbs)) := by
      rw [writtenExponent, cutAtExponent, if_pos (.inl rfl)]
    have hcuts := cutAtExponent_append h.units (writtenExponent power)
    rw [hcut, List.append_nil] at hcuts
    unfold Decimal.ofText?
    simp [hsign, hcuts, h.mantissa?_eq, exponent?_written]
  unblank u hu := by
    rcases List.mem_append.mp hu with hu | hu
    · exact (h.units u hu).unblank
    · rcases List.mem_cons.mp hu with rfl | hu
      · decide
      · rcases List.mem_cons.mp hu with rfl | hu
        · split <;> decide
        · exact CodeUnit.isBlank_of_isDigit (isDigit_ofNat hu)

/-! ## The four layouts -/

/-- Digits with the point after the first of them, unless it is the only one. -/
def pointAfterFirst : Text → Text
  | [] => []
  | [d] => [d]
  | d :: ds => d :: unit '.' :: ds

section Layouts

variable (hne : digits ≠ []) (h : ∀ u ∈ digits, u.isDigit = true)

include hne h

theorem readsAs_zeros_after (k : Nat) :
    ReadsAs (digits ++ List.replicate k (unit '0')) (decimalValue digits * tenTo k) 0 := by
  have hdigits : ∀ u ∈ digits ++ List.replicate k (unit '0'), u.isDigit = true :=
    List.forall_mem_append.mpr ⟨h, fun _ => isDigit_of_mem_zeros⟩
  have hmantissa := isMantissa_of_digits (by simp [hne]) hdigits
  rw [decimalValue_append, decimalValue_zeros, Nat.add_zero, List.length_replicate] at hmantissa
  exact hmantissa.readsAs

theorem readsAs_point_among (k : Nat) :
    ReadsAs (digits.take k ++ unit '.' :: digits.drop k) (decimalValue digits)
      (-(digits.length - k : Nat)) := by
  have hwhole : ∀ u ∈ digits.take k, u.isDigit = true := fun u hu => h u (List.mem_of_mem_take hu)
  have hfraction : ∀ u ∈ digits.drop k, u.isDigit = true :=
    fun u hu => h u (List.mem_of_mem_drop hu)
  have hmantissa := isMantissa_of_point (by rwa [List.take_append_drop]) hwhole hfraction
  rw [List.take_append_drop, List.length_drop] at hmantissa
  exact hmantissa.readsAs

omit hne in
theorem readsAs_zeros_before (k : Nat) :
    ReadsAs (unit '0' :: unit '.' :: (List.replicate k (unit '0') ++ digits)) (decimalValue digits)
      (-(k + digits.length : Nat)) := by
  have hwhole : ∀ u ∈ [unit '0'], u.isDigit = true := by
    intro u hu
    rw [List.mem_singleton.mp hu]
    decide
  have hfraction : ∀ u ∈ List.replicate k (unit '0') ++ digits, u.isDigit = true :=
    List.forall_mem_append.mpr ⟨fun _ => isDigit_of_mem_zeros, h⟩
  have hmantissa := isMantissa_of_point (by simp) hwhole hfraction
  have hvalue : decimalValue ([unit '0'] ++ (List.replicate k (unit '0') ++ digits)) =
      decimalValue digits := by
    rw [List.singleton_append, ← List.cons_append, ← List.replicate_succ, decimalValue_append,
      decimalValue_zeros, Nat.zero_mul, Nat.zero_add]
  rw [hvalue, List.length_append, List.length_replicate] at hmantissa
  exact hmantissa.readsAs

theorem readsAs_exponent_after (power : Int) :
    ReadsAs (pointAfterFirst digits ++ writtenExponent power) (decimalValue digits)
      (power - (digits.length - 1 : Nat)) := by
  match digits with
  | [d] => exact (isMantissa_of_digits hne h).readsAs_exponent power
  | d :: e :: rest =>
    have hwhole : ∀ u ∈ [d], u.isDigit = true := by
      intro u hu
      rw [List.mem_singleton.mp hu]
      exact h d List.mem_cons_self
    have hfraction : ∀ u ∈ e :: rest, u.isDigit = true :=
      fun u hu => h u (List.mem_cons_of_mem d hu)
    exact (isMantissa_of_point hne hwhole hfraction).readsAs_exponent power

end Layouts

end Text

/-! ## What is written of a number -/

namespace Number

open Text (ReadsAs)

variable {digits : Text} {x : FiniteNumber}

/-- A layout of digits is read as a decimal of the value that they have with the point before them:
zeros that fill up to the point count for the exponent, and in the other layouts the digits that
stand after the point, or the exponent, say where it is. -/
theorem exists_readsAs_layout (hne : digits ≠ []) (h : ∀ u ∈ digits, u.isDigit = true)
    (point : Int) :
    ∃ value power, ReadsAs (layout digits point) value power ∧ ∀ negative,
      (Decimal.nearest ⟨negative, value, power⟩).place =
        (Decimal.nearest ⟨negative, Text.decimalValue digits, point - digits.length⟩).place := by
  have hpos : 0 < digits.length := List.length_pos_iff.mpr hne
  unfold layout
  dsimp only
  split
  · next hbounds =>
    refine ⟨_, _, Text.readsAs_zeros_after hne h _, fun negative => ?_⟩
    rw [Decimal.place_nearest_shift, Int.zero_add, Int.toNat_of_nonneg (by omega)]
  · next hlong =>
    split
    · next hbounds =>
      refine ⟨_, _, Text.readsAs_point_among hne h _, fun negative => ?_⟩
      rw [show (-(digits.length - point.toNat : Nat) : Int) = point - digits.length by omega]
    · next hnotAmong =>
      split
      · next hbounds =>
        refine ⟨_, _, Text.readsAs_zeros_before h _, fun negative => ?_⟩
        rw [show (-((-point).toNat + digits.length : Nat) : Int) = point - digits.length by omega]
      · next hfar =>
        refine ⟨_, _, Text.readsAs_exponent_after hne h (point - 1), fun negative => ?_⟩
        rw [show point - 1 - (digits.length - 1 : Nat) = point - digits.length by omega]

/-- The digits of a decimal are those that are kept and zeros, and the point is where the decimal
has it. -/
theorem exists_of_digitsAndPoint (x : Decimal) :
    ∃ k, Text.ofNat x.digits = (digitsAndPoint x).1 ++ List.replicate k (unit '0') ∧
      (digitsAndPoint x).2 - (digitsAndPoint x).1.length = x.exponent + k := by
  obtain ⟨zeros, hall, hsplit⟩ : ∃ zeros, (∀ u ∈ zeros, u = unit '0') ∧
      Text.ofNat x.digits = (digitsAndPoint x).1 ++ zeros := by
    refine ⟨((Text.ofNat x.digits).reverse.takeWhile (· == unit '0')).reverse, ?_, ?_⟩
    · intro u hu
      have hall := List.all_eq_true.mp List.all_takeWhile u (List.mem_reverse.mp hu)
      exact beq_iff_eq.mp hall
    · rw [digitsAndPoint, ← List.reverse_append, List.takeWhile_append_dropWhile,
        List.reverse_reverse]
  rw [List.eq_replicate_of_mem hall] at hsplit
  refine ⟨_, hsplit, ?_⟩
  have hlength := congrArg List.length hsplit
  rw [List.length_append, List.length_replicate] at hlength
  rw [show (digitsAndPoint x).2 = (Text.ofNat x.digits).length + x.exponent from rfl]
  omega

/-- The kept digits of a decimal are read as the decimal, with the point where it is. -/
theorem place_nearest_digitsAndPoint (negative : Bool) (x : Decimal) :
    (Decimal.nearest ⟨negative, Text.decimalValue (digitsAndPoint x).1,
        (digitsAndPoint x).2 - (digitsAndPoint x).1.length⟩).place =
      (Decimal.nearest ⟨negative, x.digits, x.exponent⟩).place := by
  obtain ⟨k, hdigits, hpoint⟩ := exists_of_digitsAndPoint x
  have hvalue : x.digits = Text.decimalValue (digitsAndPoint x).1 * tenTo k := by
    rw [← Text.decimalValue_ofNat x.digits, hdigits, Text.decimalValue_append,
      Text.decimalValue_zeros, List.length_replicate, Nat.add_zero, tenTo, Nat.pow_eq]
  rw [hpoint, hvalue, Decimal.place_nearest_shift]

theorem digitsAndPoint_ne_nil {x : Decimal} (h : x.digits ≠ 0) : (digitsAndPoint x).1 ≠ [] := by
  intro hnil
  obtain ⟨k, hdigits, -⟩ := exists_of_digitsAndPoint x
  rw [hnil, List.nil_append] at hdigits
  apply h
  rw [← Text.decimalValue_ofNat x.digits, hdigits, Text.decimalValue_zeros]

theorem isDigit_digitsAndPoint {x : Decimal} :
    ∀ u ∈ (digitsAndPoint x).1, u.isDigit = true := by
  intro u hu
  obtain ⟨k, hdigits, -⟩ := exists_of_digitsAndPoint x
  apply Text.isDigit_ofNat (n := x.digits)
  rw [hdigits]
  exact List.mem_append_left _ hu

/-- The sign that is written before a number. -/
def writtenSign (negative : Bool) : Text := if negative then [unit '-'] else []

theorem unblank_sign_append {t : Text} {value : Nat} {power : Int} (h : ReadsAs t value power)
    (negative : Bool) : ∀ u ∈ writtenSign negative ++ t, u.isBlank = false := by
  intro u hu
  rcases List.mem_append.mp hu with hsign | hu
  · cases negative with
    | false => cases hsign
    | true =>
      rw [List.mem_singleton.mp hsign]
      decide
  · exact h.unblank u hu

/-- A numeral with a sign before it is read as the decimal with this sign. -/
theorem ofText_of_readsAs {t : Text} {value : Nat} {power : Int} (h : ReadsAs t value power)
    (negative : Bool) :
    Text.isNumeral (writtenSign negative ++ t) = true ∧
      ofText (writtenSign negative ++ t) = Decimal.nearest ⟨negative, value, power⟩ := by
  have htrim : Text.trim (writtenSign negative ++ t) = writtenSign negative ++ t :=
    Text.trim_of_unblank (unblank_sign_append h negative)
  have hsign : Text.takeSign (writtenSign negative ++ t) = (negative, t) := by
    cases negative with
    | false => exact Text.takeSign_of_isUnsignedNumeral h.isUnsigned
    | true => rfl
  have hnumeral : Text.isNumeral (writtenSign negative ++ t) = true := by
    rw [Text.isNumeral, htrim, ← Text.snd_takeSign, hsign]
    exact h.isUnsigned
  refine ⟨hnumeral, ?_⟩
  obtain ⟨y, hy, hread⟩ := ofText_eq hnumeral
  rw [htrim, h.ofText?_eq hsign] at hy
  rw [hread, ← Option.some.inj hy]

/-- What is written of a finite number is a numeral, and it is read as the number. -/
theorem place_ofText_written (x : FiniteNumber) :
    Text.isNumeral (written (.finite x)) = true ∧
      (ofText (written (.finite x))).place = x.scaled := by
  unfold written
  dsimp only
  split
  · next hzero =>
    rw [FiniteNumber.scaled_of_significand_zero hzero]
    decide +kernel
  · next hzero =>
    have hdigits := digitsAndPoint_ne_nil (FiniteNumber.digits_shortest_ne_zero hzero)
    obtain ⟨value, power, hreads, hplace⟩ :=
      exists_readsAs_layout hdigits isDigit_digitsAndPoint (digitsAndPoint x.shortest).2
    obtain ⟨hnumeral, hread⟩ := ofText_of_readsAs hreads x.negative
    obtain ⟨hback, hnegative⟩ := x.place_nearest_shortest
    refine ⟨hnumeral, ?_⟩
    calc (ofText (writtenSign x.negative ++ layout _ _)).place
        = (Decimal.nearest ⟨x.negative, value, power⟩).place := congrArg place hread
      _ = (Decimal.nearest ⟨x.negative, x.shortest.digits, x.shortest.exponent⟩).place := by
        rw [hplace, place_nearest_digitsAndPoint]
      _ = x.shortest.nearest.place := by rw [← hnegative]
      _ = x.scaled := hback

/-- What is written of a number has no blanks. -/
theorem unblank_written (x : Number) : ∀ u ∈ x.written, u.isBlank = false := by
  have hall {t : Text} (h : t.all (!·.isBlank) = true) : ∀ u ∈ t, u.isBlank = false := by
    simpa using h
  cases x with
  | nan => exact hall (by decide)
  | infinite negative => cases negative <;> exact hall (by decide)
  | finite x =>
    unfold written
    dsimp only
    split
    · exact hall (by decide)
    · next hzero =>
      have hdigits := digitsAndPoint_ne_nil (FiniteNumber.digits_shortest_ne_zero hzero)
      obtain ⟨value, power, hreads, -⟩ :=
        exists_readsAs_layout hdigits isDigit_digitsAndPoint (digitsAndPoint x.shortest).2
      exact unblank_sign_append hreads x.negative

theorem written_ne_nil (x : Number) : x.written ≠ [] := by
  cases x with
  | nan => decide
  | infinite negative => cases negative <;> decide
  | finite x =>
    intro hnil
    have hnumeral := (place_ofText_written x).1
    rw [hnil] at hnumeral
    exact absurd hnumeral (by decide)

end Number

end FieldValidation
