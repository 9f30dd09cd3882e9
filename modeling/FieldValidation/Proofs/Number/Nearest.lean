import FieldValidation.Number.Decimal
import FieldValidation.Proofs.Number.Place

/-!
# The double nearest to a decimal

A decimal is a quotient of natural numbers, and the double nearest to it stands where the quotient
is rounded to. Decimals that are told to be out of range by their exponent alone are no exception:
the large ones are rounded to where the infinities stand, the small ones to zero. So two decimals of
one value have the same nearest double.

## Main definitions

* `Decimal.units`: the units that a decimal is rounded to

## Main results

* `Decimal.place_nearest`: where the double nearest to a decimal stands
* `Decimal.place_nearest_shift`: zeros may be moved between the digits and the exponent
* `Number.ofInt_inj_of_place`: a safe integer is told from every other integer by its double
-/

namespace FieldValidation

/-! ## Powers of ten -/

theorem tenTo_add (j k : Nat) : tenTo (j + k) = tenTo j * tenTo k := Nat.pow_add 10 j k

theorem tenTo_pos (k : Nat) : 0 < tenTo k := Nat.pow_pos (by decide)

theorem twoTo_dvd_tenTo (k : Nat) : twoTo k ∣ tenTo k := ⟨5 ^ k, Nat.mul_pow 2 5 k⟩

theorem twoTo_three_mul_le_tenTo (k : Nat) : twoTo (3 * k) ≤ tenTo k := by
  rw [twoTo, Nat.pow_eq, Nat.pow_mul]
  exact Nat.pow_le_pow_left (by decide) k

/-! ## Rounding quotients of one value, and small ones -/

section Rounding

variable {n d n' d' : Nat}

/-- Quotients of one value are rounded alike. -/
theorem roundedUnits_congr (hd : 0 < d) (hd' : 0 < d') (h : n * d' = n' * d) :
    roundedUnits n d = roundedUnits n' d' :=
  Nat.le_antisymm (roundedUnits_mono hd hd' (Nat.le_of_eq h))
    (roundedUnits_mono hd' hd (Nat.le_of_eq h.symm))

/-- A quotient below one half is rounded to zero. -/
theorem roundedUnits_of_lt_half (h : 2 * n < d) : roundedUnits n d = 0 := by
  have hdiv : n / d = 0 := Nat.div_eq_of_lt (by omega)
  have hdropped : droppedBits n d = 0 := by
    rw [droppedBits, hdiv]
    decide
  have hround : roundDiv n d = 0 := by
    unfold roundDiv
    rw [hdiv, Nat.mod_eq_of_lt (by omega), if_pos h]
  rw [roundedUnits, hdropped, show twoTo 0 = 1 from rfl, Nat.mul_one, Nat.mul_one, hround]

theorem roundedUnits_zero (hd : 0 < d) : roundedUnits 0 d = 0 :=
  roundedUnits_of_lt_half (by omega)

end Rounding

/-! ## Places of decimals -/

namespace Decimal

/-- The units of the smallest distance that the magnitude of a decimal is rounded to, those from
the infinities on counted as one. -/
def units (x : Decimal) : Nat :=
  min (roundedUnits (x.digits * tenTo x.exponent.toNat * twoTo 1074) (tenTo (-x.exponent).toNat))
    infinityPlace

theorem units_of_zero {x : Decimal} (h : x.digits = 0) : x.units = 0 := by
  rw [units, h, Nat.zero_mul, Nat.zero_mul, roundedUnits_zero (tenTo_pos _), Nat.zero_min]

/-- A decimal with a large exponent is rounded to where the infinities stand. -/
theorem units_of_large {x : Decimal} (hdigits : x.digits ≠ 0)
    (h : x.exponent > decimalRange) : x.units = infinityPlace := by
  unfold decimalRange at h
  have hpower : twoTo 1024 ≤ tenTo x.exponent.toNat :=
    calc twoTo 1024 ≤ twoTo (3 * x.exponent.toNat) := twoTo_le_twoTo (by omega)
      _ ≤ tenTo x.exponent.toNat := twoTo_three_mul_le_tenTo _
  have hmagnitude : twoTo 1024 ≤ x.digits * tenTo x.exponent.toNat :=
    Nat.le_trans hpower (Nat.le_mul_of_pos_left _ (Nat.pos_of_ne_zero hdigits))
  have hexact : roundedUnits infinityPlace 1 = infinityPlace := by
    have hfits := roundedUnits_of_fits (s := 1) (t := 2098) Nat.one_pos (by decide)
    rwa [Nat.one_mul, Nat.one_mul] at hfits
  have hwhole : (-x.exponent).toNat = 0 := by omega
  unfold units
  rw [hwhole, Nat.min_eq_right]
  refine Nat.le_trans (Nat.le_of_eq hexact.symm) (roundedUnits_mono Nat.one_pos Nat.one_pos ?_)
  calc infinityPlace * tenTo 0 = twoTo 1024 * twoTo 1074 := by
        rw [show tenTo 0 = 1 from rfl, Nat.mul_one, ← twoTo_add]
        rfl
    _ ≤ x.digits * tenTo x.exponent.toNat * twoTo 1074 := Nat.mul_le_mul_right _ hmagnitude
    _ = x.digits * tenTo x.exponent.toNat * twoTo 1074 * 1 := (Nat.mul_one _).symm

/-- A decimal whose digits do not make up for its exponent is rounded to zero. -/
theorem units_of_small {x : Decimal}
    (h : 3 * (-x.exponent - decimalRange) ≥ x.digits.log2 + 1) : x.units = 0 := by
  unfold decimalRange at h
  obtain ⟨k, hk, hbits⟩ : ∃ k, (-x.exponent).toNat = k + 400 ∧ x.digits.log2 + 1 ≤ 3 * k :=
    ⟨(-x.exponent).toNat - 400, by omega, by omega⟩
  have hdigits : x.digits < tenTo k :=
    calc x.digits < twoTo (x.digits.log2 + 1) := lt_twoTo_log2_succ _
      _ ≤ twoTo (3 * k) := twoTo_le_twoTo hbits
      _ ≤ tenTo k := twoTo_three_mul_le_tenTo k
  have hrange : 2 * twoTo 1074 ≤ tenTo 400 :=
    calc 2 * twoTo 1074 = twoTo (1 + 1074) := by rw [twoTo_add, show twoTo 1 = 2 from rfl]
      _ ≤ twoTo (3 * 400) := twoTo_le_twoTo (by decide)
      _ ≤ tenTo 400 := twoTo_three_mul_le_tenTo 400
  have hnone : x.exponent.toNat = 0 := by omega
  unfold units
  rw [hnone, hk, show tenTo 0 = 1 from rfl, Nat.mul_one, roundedUnits_of_lt_half, Nat.zero_min]
  calc 2 * (x.digits * twoTo 1074) = x.digits * (2 * twoTo 1074) := Nat.mul_left_comm _ _ _
    _ ≤ x.digits * tenTo 400 := Nat.mul_le_mul_left _ hrange
    _ < tenTo k * tenTo 400 := Nat.mul_lt_mul_of_pos_right hdigits (tenTo_pos 400)
    _ = tenTo (k + 400) := (tenTo_add k 400).symm

/-- The double nearest to a decimal stands where its magnitude is rounded to. -/
theorem place_nearest (x : Decimal) : x.nearest.place = signed x.negative x.units := by
  unfold nearest
  split
  · next hzero =>
    rw [units_of_zero hzero, signed_zero]
    cases x.negative <;> decide
  · next hdigits =>
    split
    · next hlarge =>
      rw [units_of_large hdigits hlarge]
      rfl
    · split
      · next hsmall =>
        rw [units_of_small hsmall, signed_zero]
        cases x.negative <;> decide
      · exact Number.place_ofRatio _ _ (tenTo_pos _)

/-- Zeros at the end of the digits may be counted in the exponent. -/
theorem units_shift (negative : Bool) (digits k : Nat) (exponent : Int) :
    (⟨negative, digits * tenTo k, exponent⟩ : Decimal).units =
      (⟨negative, digits, exponent + k⟩ : Decimal).units := by
  obtain ⟨c, hup, hdown⟩ : ∃ c : Nat, k + exponent.toNat = (exponent + k).toNat + c ∧
      (-exponent).toNat = (-(exponent + k)).toNat + c :=
    ⟨(-exponent).toNat - (-(exponent + k)).toNat, by omega, by omega⟩
  unfold units
  dsimp only
  refine congrArg (min · infinityPlace) (roundedUnits_congr (tenTo_pos _) (tenTo_pos _) ?_)
  rw [Nat.mul_assoc digits, ← tenTo_add, hup, hdown, tenTo_add, tenTo_add]
  simp only [Nat.mul_assoc, Nat.mul_comm, Nat.mul_left_comm]

theorem place_nearest_shift (negative : Bool) (digits k : Nat) (exponent : Int) :
    (nearest ⟨negative, digits * tenTo k, exponent⟩).place =
      (nearest ⟨negative, digits, exponent + k⟩).place := by
  rw [place_nearest, place_nearest, units_shift]

end Decimal

namespace Number

/-- The double nearest to an integer, told by sign and magnitude. -/
theorem place_nearest (negative : Bool) (m : Nat) :
    (Decimal.nearest ⟨negative, m, 0⟩).place = (ofInt (signed negative m)).place := by
  rw [place_ofInt_signed, Decimal.place_nearest]
  simp [Decimal.units, tenTo]

/-! ## Safe integers -/

/-- Integers that doubles tell apart are not rounded. The largest has one digit more than fits, but
its last one is zero. -/
theorem place_ofInt_of_le {i : Int} (h : i.natAbs ≤ twoTo 53) :
    (ofInt i).place = i * twoTo 1074 := by
  obtain ⟨s, t, hs, hfits⟩ : ∃ s t, s < twoTo 53 ∧ i.natAbs * twoTo 1074 = s * twoTo t := by
    rcases Nat.lt_or_eq_of_le h with hlt | heq
    · exact ⟨i.natAbs, 1074, hlt, rfl⟩
    · exact ⟨1, 53 + 1074, by decide, by rw [heq, twoTo_add, Nat.one_mul]⟩
  have hexact : roundedUnits (i.natAbs * twoTo 1074) 1 = i.natAbs * twoTo 1074 := by
    have hround := roundedUnits_of_fits (d := 1) (t := t) Nat.one_pos hs
    rwa [Nat.one_mul, ← hfits] at hround
  have hfinite : i.natAbs * twoTo 1074 ≤ infinityPlace :=
    calc i.natAbs * twoTo 1074 ≤ twoTo 53 * twoTo 1074 := Nat.mul_le_mul_right _ h
      _ = twoTo (53 + 1074) := (twoTo_add _ _).symm
      _ ≤ infinityPlace := twoTo_le_twoTo (by decide)
  rw [place_ofInt, hexact, Nat.min_eq_left hfinite, signed_mul, signed_natAbs]

/-- A safe integer is told from every other integer by its double: those of its neighbours stand
elsewhere, and those of the others are beyond them. -/
theorem ofInt_inj_of_place {i j : Int} (hsafe : i.natAbs ≤ maxSafeInteger)
    (h : (ofInt i).place = (ofInt j).place) : i = j := by
  have hbound : i.natAbs + 1 ≤ twoTo 53 := by
    unfold maxSafeInteger at hsafe
    have := twoTo_pos 53
    omega
  have hself : (ofInt i).place = i * twoTo 1074 := place_ofInt_of_le (by omega)
  have hnext : (ofInt (i + 1)).place = (i + 1) * twoTo 1074 := place_ofInt_of_le (by omega)
  have hlast : (ofInt (i - 1)).place = (i - 1) * twoTo 1074 := place_ofInt_of_le (by omega)
  have hunit := twoTo_pos 1074
  generalize twoTo 1074 = unit at hself hnext hlast hunit
  rcases Int.lt_trichotomy i j with hlt | heq | hgt
  · have hle := place_ofInt_mono (Int.add_one_le_of_lt hlt)
    rw [← h, hself, hnext, Int.add_mul, Int.one_mul] at hle
    omega
  · exact heq
  · have hle := place_ofInt_mono (show j ≤ i - 1 by omega)
    rw [← h, hself, hlast, Int.sub_mul, Int.one_mul] at hle
    omega

end Number

end FieldValidation
