import Mathlib.Logic.Basic
import FieldValidation.Proofs.Number.Nearest

/-!
# The shortest decimal reads back

The decimal that a number is written as is looked for among those with few digits, and one is taken
only if it reads back as the number. Should none do, the exact value of the number is taken, whose
digits are found by turning halves into fives. Either way what is written stands where the number
stands, and has its sign.

## Main results

* `FiniteNumber.place_nearest_shortest`: the shortest decimal reads back as the number
* `FiniteNumber.digits_shortest_ne_zero`: only zero is written as zero
-/

namespace FieldValidation

namespace FiniteNumber

variable {x : FiniteNumber}

/-- A decimal found on a grid reads back. -/
theorem nearest_of_onGrid? {exponent : Int} {decimal : Decimal}
    (h : x.onGrid? exponent = some decimal) :
    decimal.negative = x.negative ∧ decimal.nearest = .finite x := by
  have hread {digits : Nat} (hback : x.readsBack digits exponent = true)
      (heq : some ⟨x.negative, digits, exponent⟩ = some decimal) :
      decimal.negative = x.negative ∧ decimal.nearest = .finite x := by
    obtain rfl := Option.some.inj heq
    exact ⟨rfl, of_decide_eq_true hback⟩
  unfold onGrid? at h
  rcases ite_eq_iff.mp h with ⟨hnear, h⟩ | ⟨-, h⟩
  · exact hread hnear h
  · rcases ite_eq_iff.mp h with ⟨hfar, h⟩ | ⟨-, h⟩
    · exact hread hfar h
    · cases h

/-- The exact value of a number as a decimal: where its exponent is negative, each half is five
tenths. -/
theorem place_nearest_exact (x : FiniteNumber) :
    (Decimal.nearest ⟨x.negative, x.significand * twoTo x.exponent.toNat *
        (tenTo (-x.exponent).toNat / twoTo (-x.exponent).toNat), min x.exponent 0⟩).place =
      x.scaled := by
  obtain ⟨c, hunit, hunits⟩ := exists_rest_of_exponent x.le_exponent
  have hup : (min x.exponent 0).toNat = 0 := by omega
  have hdown : (-min x.exponent 0).toNat = (-x.exponent).toNat := by omega
  have hexact := roundedUnits_of_fits (t := (x.exponent + 1074).toNat) Nat.one_pos
    x.significand_lt
  rw [Nat.one_mul] at hexact
  rw [Decimal.place_nearest, Decimal.units, scaled_eq]
  dsimp only
  rw [hup, hdown]
  have hround : roundedUnits (x.significand * twoTo x.exponent.toNat *
      (tenTo (-x.exponent).toNat / twoTo (-x.exponent).toNat) * tenTo 0 * twoTo 1074)
      (tenTo (-x.exponent).toNat) = roundedUnits x.units 1 := by
    apply roundedUnits_congr (tenTo_pos _) Nat.one_pos
    generalize (-x.exponent).toNat = k at hunit ⊢
    have hfives := Nat.div_mul_cancel (twoTo_dvd_tenTo k)
    generalize tenTo k / twoTo k = fives at hfives ⊢
    rw [← hfives, units, hunits, hunit, twoTo_add, twoTo_add, show tenTo 0 = 1 from rfl,
      Nat.mul_one, Nat.mul_one]
    simp only [Nat.mul_assoc, Nat.mul_comm, Nat.mul_left_comm]
  rw [hround, show roundedUnits x.units 1 = x.units from hexact,
    Nat.min_eq_left (Nat.le_of_lt x.units_lt)]

theorem scaled_of_significand_zero (h : x.significand = 0) : x.scaled = 0 := by
  rw [scaled_eq, units, h, Nat.zero_mul, signed_zero]

/-- The shortest decimal of a number reads back as the number. -/
theorem place_nearest_shortest (x : FiniteNumber) :
    x.shortest.nearest.place = x.scaled ∧ x.shortest.negative = x.negative := by
  unfold shortest
  split
  · next hzero =>
    refine ⟨?_, rfl⟩
    rw [Decimal.place_nearest, scaled_of_significand_zero hzero, Decimal.units_of_zero rfl,
      signed_zero]
  · dsimp only
    split
    · next decimal hfound =>
      obtain ⟨k, -, hk⟩ := List.exists_of_findSome?_eq_some hfound
      obtain ⟨hnegative, hnearest⟩ := nearest_of_onGrid? hk
      exact ⟨by rw [hnearest]; rfl, hnegative⟩
    · exact ⟨x.place_nearest_exact, rfl⟩

/-- A number that is not zero is not written as zero. -/
theorem digits_shortest_ne_zero (h : x.significand ≠ 0) : x.shortest.digits ≠ 0 := by
  intro hdigits
  have hplace := x.place_nearest_shortest.1
  rw [Decimal.place_nearest, Decimal.units_of_zero hdigits, signed_zero, scaled_eq] at hplace
  have habs := natAbs_signed x.negative x.units
  rw [← hplace] at habs
  exact absurd habs (Nat.ne_of_lt (units_pos h))

end FiniteNumber

end FieldValidation
