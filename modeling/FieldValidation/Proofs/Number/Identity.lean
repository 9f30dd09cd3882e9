import FieldValidation.Proofs.Number.Written

/-!
# Numbers are told apart by their texts

A finite number that is not zero has one significand and one exponent, so where it stands it is
alone. What is written of it is read as a number in that place. Hence two numbers have one text only
if they are the same number, where the two zeros count as one and so does not-a-number.

## Main results

* `FiniteNumber.eq_of_units`: one magnitude, one significand and one exponent
* `Number.written_eq_iff`: two numbers have one text where they are equal or both not-a-number
* `Number.written_ofText_written`: the text of a number, read and written again
-/

namespace FieldValidation

namespace FiniteNumber

variable {x y : FiniteNumber}

/-- Of two numbers that stand equally far from zero neither has the larger exponent: its significand
would be full, and the other one would have a digit more than there are. -/
theorem exponent_le_of_units (h : x.units = y.units) : y.exponent ≤ x.exponent := by
  by_contra hlt
  have hle := x.le_exponent
  have hfull : twoTo 52 ≤ y.significand := y.canonical.resolve_right (by omega)
  obtain ⟨j, hj⟩ : ∃ j, (y.exponent + 1074).toNat = 1 + j + (x.exponent + 1074).toNat :=
    ⟨(y.exponent - x.exponent - 1).toNat, by omega⟩
  have hsignificand : x.significand = y.significand * twoTo (1 + j) := by
    apply Nat.eq_of_mul_eq_mul_right (twoTo_pos (x.exponent + 1074).toNat)
    rw [Nat.mul_assoc, ← twoTo_add, ← hj]
    exact h
  have hover : twoTo 53 ≤ x.significand :=
    calc twoTo 53 = twoTo 52 * twoTo 1 := twoTo_add 52 1
      _ ≤ y.significand * twoTo (1 + j) := Nat.mul_le_mul hfull (twoTo_le_twoTo (by omega))
      _ = x.significand := hsignificand.symm
  exact absurd x.significand_lt (Nat.not_lt.mpr hover)

/-- How far a number stands from zero tells its significand and its exponent. -/
theorem eq_of_units (h : x.units = y.units) :
    x.significand = y.significand ∧ x.exponent = y.exponent := by
  have hexponent : x.exponent = y.exponent :=
    Int.le_antisymm (exponent_le_of_units h.symm) (exponent_le_of_units h)
  refine ⟨?_, hexponent⟩
  unfold units at h
  rw [hexponent] at h
  exact Nat.eq_of_mul_eq_mul_right (twoTo_pos _) h

theorem units_eq_of_scaled (h : x.scaled = y.scaled) : x.units = y.units := by
  rw [← natAbs_signed x.negative x.units, ← natAbs_signed y.negative y.units, ← scaled_eq,
    ← scaled_eq, h]

/-- A number that is not zero is alone where it stands. -/
theorem eq_of_scaled (hx : x.significand ≠ 0) (h : x.scaled = y.scaled) : x = y := by
  have hunits := units_eq_of_scaled h
  obtain ⟨hsignificand, hexponent⟩ := eq_of_units hunits
  have hpos := units_pos hx
  have hnegative : x.negative = y.negative := by
    rw [scaled_eq, scaled_eq, ← hunits] at h
    unfold signed at h
    cases hneg : x.negative <;> cases hneg' : y.negative <;> simp [hneg, hneg'] at h ⊢ <;> omega
  obtain ⟨negative, significand, exponent, _, _, _, _⟩ := x
  obtain ⟨negative', significand', exponent', _, _, _, _⟩ := y
  dsimp only at hsignificand hexponent hnegative
  subst hsignificand hexponent hnegative
  rfl

end FiniteNumber

namespace Number

variable {x y : FiniteNumber}

/-- Finite numbers have one text where they stand in one place. -/
theorem written_finite_eq_iff :
    written (.finite x) = written (.finite y) ↔ x.scaled = y.scaled := by
  constructor
  · intro h
    rw [← (place_ofText_written x).2, h, (place_ofText_written y).2]
  · intro h
    by_cases hx : x.significand = 0
    · have hy : y.significand = 0 := by
        rw [← (FiniteNumber.eq_of_units (FiniteNumber.units_eq_of_scaled h)).1]
        exact hx
      simp [written, hx, hy]
    · rw [FiniteNumber.eq_of_scaled hx h]

/-- What is written of a finite number is written of no other kind of number. -/
theorem written_finite_ne (x : FiniteNumber) {z : Number} (hz : z.isFinite = false) :
    written (.finite x) ≠ written z := by
  intro h
  have hnumeral := (place_ofText_written x).1
  rw [h] at hnumeral
  cases z with
  | finite => cases hz
  | nan => exact absurd hnumeral (by decide)
  | infinite negative =>
    cases negative with
    | false => exact absurd hnumeral (by decide)
    | true => exact absurd hnumeral (by decide)

/-- Two numbers have one text where they are equal, or are both not-a-number. -/
theorem written_eq_iff {x y : Number} :
    x.written = y.written ↔ (x = .nan ∧ y = .nan) ∨ x.equals y = true := by
  match x, y with
  | .finite x, .finite y =>
    rw [written_finite_eq_iff]
    simp [equals, compare?]
  | .finite x, .nan =>
    exact iff_of_false (written_finite_ne x rfl) (by simp [equals, compare?])
  | .finite x, .infinite negative =>
    exact iff_of_false (written_finite_ne x rfl) (by cases negative <;> simp [equals, compare?])
  | .nan, .finite y =>
    exact iff_of_false (written_finite_ne y rfl).symm (by simp [equals, compare?])
  | .infinite negative, .finite y =>
    exact iff_of_false (written_finite_ne y rfl).symm
      (by cases negative <;> simp [equals, compare?])
  | .nan, .infinite negative | .infinite negative, .nan => cases negative <;> decide
  | .nan, .nan => simp
  | .infinite negative, .infinite negative' => cases negative <;> cases negative' <;> decide

/-- Only a finite number stands where one does. -/
theorem exists_finite_of_place {z : Number} (hz : z ≠ .nan) (h : z.place = x.scaled) :
    ∃ y : FiniteNumber, z = .finite y ∧ y.scaled = x.scaled := by
  cases z with
  | nan => exact absurd rfl hz
  | finite y => exact ⟨y, rfl, h⟩
  | infinite negative =>
    have hbounds := scaled_bounds x
    rw [← h] at hbounds
    cases negative with
    | false => exact absurd hbounds.2 (Int.lt_irrefl _)
    | true => exact absurd hbounds.1 (Int.lt_irrefl _)

/-- The text of a finite number is read as a number that is written so. -/
theorem written_ofText_written (x : FiniteNumber) :
    (ofText (written (.finite x))).written = written (.finite x) := by
  obtain ⟨hnumeral, hplace⟩ := place_ofText_written x
  obtain ⟨y, hread, hscaled⟩ := exists_finite_of_place (ofText_ne_nan hnumeral) hplace
  rw [hread]
  exact written_finite_eq_iff.mpr hscaled

end Number

end FieldValidation
