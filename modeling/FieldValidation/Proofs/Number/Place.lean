import FieldValidation.Proofs.Number.Rounding

/-!
# Where a number stands

The doubles stand at multiples of the distance between the smallest of them. From one distance
above the largest on there are no more; what is rounded to there is infinite, so the infinities are
given that place. The places of two numbers tell their order, and the double nearest to a quotient
stands where the quotient is rounded to.

## Main definitions

* `signed`: a magnitude with its sign
* `Number.place`: where a number stands
* `FiniteNumber.IsInteger`: the integer that a number is

## Main results

* `FiniteNumber.toInt?_eq_some_iff`: the integer that is found is the one that the number is
* `Number.compare?_eq`: numbers are ordered by their places
* `Number.place_ofRatio`: where the double nearest to a quotient stands
* `Number.place_ofInt_mono`: the doubles nearest to integers are ordered as these are
* `Number.place_of_toInt?`: a double that is an integer is the one nearest to it
-/

namespace FieldValidation

/-! ## The exponent of a quotient -/

/-- Whether a quotient is at least a power of two. -/
def ReachesTwoTo (n d : Nat) (k : Int) : Prop := d * twoTo k.toNat ≤ n * twoTo (-k).toNat

variable {n d : Nat} {k : Int}

/-- The power may be given as a quotient of powers. -/
theorem reachesTwoTo_iff {j l : Nat} (h : (j : Int) - l = k) :
    ReachesTwoTo n d k ↔ d * twoTo j ≤ n * twoTo l := by
  obtain ⟨c, rfl, rfl⟩ : ∃ c, j = k.toNat + c ∧ l = (-k).toNat + c :=
    ⟨min j l, by omega, by omega⟩
  rw [twoTo_add, twoTo_add, ← Nat.mul_assoc, ← Nat.mul_assoc,
    Nat.mul_le_mul_right_iff (twoTo_pos c)]
  rfl

theorem ReachesTwoTo.of_le {k' : Int} (h : ReachesTwoTo n d k') (hle : k ≤ k') :
    ReachesTwoTo n d k := by
  rw [reachesTwoTo_iff (j := (k' + (-k).toNat).toNat) (l := (-k).toNat) (by omega)] at h
  rw [reachesTwoTo_iff (j := (k + (-k).toNat).toNat) (l := (-k).toNat) (by omega)]
  exact Nat.le_trans (Nat.mul_le_mul_left d (twoTo_le_twoTo (by omega))) h

/-- Numerator and denominator tell the exponent of a quotient but for one. -/
theorem reachesTwoTo_log2_sub (hn : 0 < n) :
    ReachesTwoTo n d ((n.log2 : Int) - d.log2 - 1) := by
  rw [reachesTwoTo_iff (j := n.log2) (l := d.log2 + 1) (by omega), Nat.mul_comm]
  exact Nat.mul_le_mul (Nat.log2_self_le (by omega)) (Nat.le_of_lt (lt_twoTo_log2_succ d))

theorem not_reachesTwoTo_log2_sub (hd : 0 < d) :
    ¬ ReachesTwoTo n d ((n.log2 : Int) - d.log2 + 1) := by
  rw [reachesTwoTo_iff (j := n.log2 + 1) (l := d.log2) (by omega), Nat.not_le, Nat.mul_comm d]
  exact Nat.mul_lt_mul_of_lt_of_le (lt_twoTo_log2_succ n) (Nat.log2_self_le (by omega)) hd

/-- The exponent of a quotient is the largest power of two that it reaches. -/
theorem le_log2Ratio_iff (hn : 0 < n) (hd : 0 < d) :
    k ≤ log2Ratio n d ↔ ReachesTwoTo n d k := by
  have hlow := reachesTwoTo_log2_sub (d := d) hn
  have hhigh := not_reachesTwoTo_log2_sub (n := n) hd
  unfold log2Ratio
  dsimp only
  generalize (n.log2 : Int) - d.log2 = k₀ at hlow hhigh
  split
  · next hreaches =>
    constructor
    · exact ReachesTwoTo.of_le hreaches
    · intro h
      exact Int.not_lt.mp fun hlt => hhigh (h.of_le (by omega))
  · next hnot =>
    constructor
    · exact ReachesTwoTo.of_le hlow
    · intro h
      exact Int.not_lt.mp fun hlt => hnot (h.of_le (by omega))

/-- The exponent that a quotient is rounded at, in units of the smallest distance. -/
theorem toNat_exponent_eq (hn : 0 < n) (hd : 0 < d) :
    (max (log2Ratio n d - 52) (-1074) + 1074).toNat = droppedBits (n * twoTo 1074) d := by
  have hreaches (j : Nat) :
      twoTo j ≤ n * twoTo 1074 / d ↔ (j : Int) - 1074 ≤ log2Ratio n d := by
    rw [Nat.le_div_iff_mul_le hd, Nat.mul_comm, le_log2Ratio_iff hn hd]
    exact (reachesTwoTo_iff rfl).symm
  unfold droppedBits
  generalize n * twoTo 1074 / d = q at hreaches
  by_cases hq : q = 0
  · have hnone := mt (hreaches 0).mpr (by rw [hq]; exact Nat.not_le_of_lt (twoTo_pos 0))
    simp only [hq, Nat.log2_zero]
    omega
  · have hlow := (hreaches q.log2).mp ((le_log2_iff hq).mp (Nat.le_refl _))
    have hhigh := mt (hreaches (q.log2 + 1)).mpr (Nat.not_le_of_lt (lt_twoTo_log2_succ q))
    omega

/-- What is left of the least exponent when a power of two is taken as a quotient. -/
theorem exists_rest_of_exponent {e : Int} (he : -1074 ≤ e) :
    ∃ c, 1074 = (-e).toNat + c ∧ (e + 1074).toNat = e.toNat + c :=
  ⟨1074 - (-e).toNat, by omega, by omega⟩

/-- Rounding at that exponent. -/
theorem roundDiv_exponent_eq (n d : Nat) {e : Int} (he : -1074 ≤ e) :
    roundDiv (n * twoTo (-e).toNat) (d * twoTo e.toNat) =
      roundDiv (n * twoTo 1074) (d * twoTo (e + 1074).toNat) := by
  obtain ⟨c, hdown, hup⟩ := exists_rest_of_exponent he
  rw [hup, hdown, Nat.add_comm _ c, Nat.add_comm _ c, twoTo_add, twoTo_add, Nat.mul_left_comm n,
    Nat.mul_left_comm d, roundDiv_mul_left (twoTo_pos c)]

/-! ## Places -/

/-- A magnitude with its sign. -/
def signed (negative : Bool) (magnitude : Nat) : Int :=
  if negative then -magnitude else magnitude

@[simp] theorem signed_zero (negative : Bool) : signed negative 0 = 0 := by
  cases negative <;> rfl

@[simp] theorem natAbs_signed (negative : Bool) (magnitude : Nat) :
    (signed negative magnitude).natAbs = magnitude := by
  cases negative <;> simp [signed]

@[simp] theorem signed_natAbs (i : Int) : signed (i < 0) i.natAbs = i := by
  unfold signed
  split
  · next hneg =>
    have := of_decide_eq_true hneg
    omega
  · next hpos =>
    have := mt decide_eq_true hpos
    omega

theorem signed_mul (negative : Bool) (m k : Nat) :
    signed negative (m * k) = signed negative m * k := by
  cases negative with
  | false => exact Int.natCast_mul m k
  | true =>
    show -((m * k : Nat) : Int) = -m * k
    rw [Int.natCast_mul, Int.neg_mul]

/-- Of two magnitudes with one sign, the signed ones are ordered by the sign. -/
theorem signed_le_signed {i j : Int} {f : Nat → Nat} (hmono : ∀ {m k}, m ≤ k → f m ≤ f k)
    (h : i ≤ j) : signed (i < 0) (f i.natAbs) ≤ signed (j < 0) (f j.natAbs) := by
  unfold signed
  split <;> split
  · have := hmono (m := j.natAbs) (k := i.natAbs) (by simp_all; omega)
    omega
  · omega
  · simp_all
    omega
  · have := hmono (m := i.natAbs) (k := j.natAbs) (by simp_all; omega)
    omega

/-- The place of the infinities, in units of the smallest distance. -/
def infinityPlace : Nat := twoTo 2098

namespace Number

/-- Where a number stands, in units of the smallest distance. Not-a-number stands nowhere, and is
given the place of zero. -/
def place : Number → Int
  | .nan => 0
  | .infinite negative => signed negative infinityPlace
  | .finite x => x.scaled

end Number

namespace FiniteNumber

/-- How far from zero a finite number stands. -/
def units (x : FiniteNumber) : Nat := x.significand * twoTo (x.exponent + 1074).toNat

theorem scaled_eq (x : FiniteNumber) : x.scaled = signed x.negative x.units := rfl

theorem units_pos {x : FiniteNumber} (h : x.significand ≠ 0) : 0 < x.units :=
  Nat.mul_pos (Nat.pos_of_ne_zero h) (twoTo_pos _)

/-- The finite numbers stand before the infinities. -/
theorem units_lt (x : FiniteNumber) : x.units < infinityPlace := by
  have hexponent : (x.exponent + 1074).toNat ≤ 2045 := by
    have := x.exponent_le
    omega
  calc x.significand * twoTo (x.exponent + 1074).toNat
      ≤ x.significand * twoTo 2045 := Nat.mul_le_mul_left _ (twoTo_le_twoTo hexponent)
    _ < twoTo 53 * twoTo 2045 := Nat.mul_lt_mul_of_pos_right x.significand_lt (twoTo_pos _)
    _ = infinityPlace := (twoTo_add 53 2045).symm

theorem toInt?_eq (x : FiniteNumber) :
    x.toInt? =
      if x.significand * twoTo x.exponent.toNat % twoTo (-x.exponent).toNat = 0 then
        some (signed x.negative
          (x.significand * twoTo x.exponent.toNat / twoTo (-x.exponent).toNat))
      else none := rfl

/-- The quotient that a number is when it is an integer. -/
theorem exists_ratio_of_toInt? {x : FiniteNumber} {i : Int} (h : x.toInt? = some i) :
    ∃ q, x.ratio.1 = x.ratio.2 * q ∧ signed x.negative q = i := by
  rw [toInt?_eq] at h
  by_cases hmod : x.significand * twoTo x.exponent.toNat % twoTo (-x.exponent).toNat = 0
  · obtain ⟨q, hq⟩ := Nat.dvd_of_mod_eq_zero hmod
    rw [if_pos hmod, hq, Nat.mul_div_cancel_left q (twoTo_pos _)] at h
    exact ⟨q, hq, Option.some.inj h⟩
  · rw [if_neg hmod] at h
    cases h

/-- A number that is an integer stands at a multiple of the place of one. -/
theorem exists_of_toInt? {x : FiniteNumber} {i : Int} (h : x.toInt? = some i) :
    ∃ q, q * twoTo 1074 = x.units ∧ signed x.negative q = i := by
  obtain ⟨c, hdown, hup⟩ := exists_rest_of_exponent x.le_exponent
  obtain ⟨q, hq, hi⟩ := exists_ratio_of_toInt? h
  have hquotient : x.significand * twoTo x.exponent.toNat = twoTo (-x.exponent).toNat * q := hq
  refine ⟨q, ?_, hi⟩
  calc q * twoTo 1074
      = twoTo (-x.exponent).toNat * q * twoTo c := by
        rw [hdown, twoTo_add, ← Nat.mul_assoc, Nat.mul_comm q]
    _ = x.units := by rw [← hquotient, units, hup, twoTo_add, Nat.mul_assoc]

/-- A number is an integer: it stands at this multiple of the place of one. -/
def IsInteger (x : FiniteNumber) (i : Int) : Prop := x.scaled = i * twoTo 1074

theorem isInteger_of_toInt? {x : FiniteNumber} {i : Int} (h : x.toInt? = some i) :
    x.IsInteger i := by
  obtain ⟨q, hq, rfl⟩ := exists_of_toInt? h
  rw [IsInteger, scaled_eq, ← hq, signed_mul]

theorem toInt?_of_isInteger {x : FiniteNumber} {i : Int} (h : x.IsInteger i) :
    x.toInt? = some i := by
  unfold IsInteger at h
  obtain ⟨c, hdown, hup⟩ := exists_rest_of_exponent x.le_exponent
  have hunits : x.units = i.natAbs * twoTo 1074 := by
    rw [← natAbs_signed x.negative x.units, ← scaled_eq, h, Int.natAbs_mul, Int.natAbs_natCast]
  have hquotient : x.significand * twoTo x.exponent.toNat =
      i.natAbs * twoTo (-x.exponent).toNat := by
    apply Nat.eq_of_mul_eq_mul_right (twoTo_pos c)
    rw [Nat.mul_assoc, ← twoTo_add, ← hup, Nat.mul_assoc, ← twoTo_add, ← hdown]
    exact hunits
  have hsign : signed x.negative i.natAbs = i := by
    have hone : (twoTo 1074 : Int) ≠ 0 := Int.natCast_ne_zero.mpr (Nat.ne_of_gt (twoTo_pos 1074))
    apply Int.eq_of_mul_eq_mul_right hone
    rw [← signed_mul, ← hunits, ← scaled_eq, h]
  rw [toInt?_eq, hquotient, if_pos (Nat.mul_mod_left _ _), Nat.mul_div_cancel _ (twoTo_pos _),
    hsign]

theorem toInt?_eq_some_iff {x : FiniteNumber} {i : Int} : x.toInt? = some i ↔ x.IsInteger i :=
  ⟨isInteger_of_toInt?, toInt?_of_isInteger⟩

end FiniteNumber

namespace Number

variable {x y : Number}

theorem infinityPlace_pos : 0 < infinityPlace := twoTo_pos 2098

theorem scaled_bounds (z : FiniteNumber) :
    -infinityPlace < z.scaled ∧ z.scaled < infinityPlace := by
  have hlt := z.units_lt
  rw [z.scaled_eq, signed]
  split <;> omega

/-- Numbers are ordered by their places. -/
theorem compare?_eq (hx : x ≠ .nan) (hy : y ≠ .nan) :
    x.compare? y = some (compare x.place y.place) := by
  have hpos : (-infinityPlace : Int) < infinityPlace := by
    have := infinityPlace_pos
    omega
  match x, y with
  | .nan, _ => exact absurd rfl hx
  | _, .nan => exact absurd rfl hy
  | .infinite false, .infinite false | .infinite true, .infinite true =>
    exact congrArg some (Int.compare_eq_eq.mpr rfl).symm
  | .infinite true, .infinite false => exact congrArg some (Int.compare_eq_lt.mpr hpos).symm
  | .infinite false, .infinite true => exact congrArg some (Int.compare_eq_gt.mpr hpos).symm
  | .infinite true, .finite z =>
    exact congrArg some (Int.compare_eq_lt.mpr (scaled_bounds z).1).symm
  | .infinite false, .finite z =>
    exact congrArg some (Int.compare_eq_gt.mpr (scaled_bounds z).2).symm
  | .finite z, .infinite true =>
    exact congrArg some (Int.compare_eq_gt.mpr (scaled_bounds z).1).symm
  | .finite z, .infinite false =>
    exact congrArg some (Int.compare_eq_lt.mpr (scaled_bounds z).2).symm
  | .finite _, .finite _ => rfl

/-- Only an infinity stands where it does. -/
theorem eq_infinite_of_place {negative : Bool} (hx : x ≠ .nan)
    (h : x.place = (infinite negative).place) : x = .infinite negative := by
  have heq : x.compare? (.infinite negative) = some .eq := by
    rw [compare?_eq hx (by simp), h, Int.compare_eq_eq.mpr rfl]
  match x with
  | .nan => exact absurd rfl hx
  | .infinite sign => cases sign <;> cases negative <;> first | rfl | cases heq
  | .finite z => cases negative <;> cases heq

/-! ## The nearest double -/

/-- A number in canonical form stands where it says, or with the infinities. -/
theorem place_ofCanonical {negative : Bool} {m : Nat} {e : Int} (hm : m < twoTo 53)
    (he : -1074 ≤ e) (hcanonical : twoTo 52 ≤ m ∨ e = -1074) :
    (ofCanonical negative m e).place =
      signed negative (min (m * twoTo (e + 1074).toNat) infinityPlace) := by
  unfold ofCanonical
  by_cases hle : e ≤ 971
  · rw [dif_pos ⟨hm, he, hle, hcanonical⟩]
    have hlt : m * twoTo (e + 1074).toNat < infinityPlace :=
      FiniteNumber.units_lt ⟨negative, m, e, hm, he, hle, hcanonical⟩
    rw [Nat.min_eq_left (Nat.le_of_lt hlt)]
    rfl
  · rw [dif_neg fun h => hle h.2.2.1]
    have hfull : twoTo 52 ≤ m := hcanonical.resolve_right (by omega)
    have hover : infinityPlace ≤ m * twoTo (e + 1074).toNat :=
      calc infinityPlace = twoTo 52 * twoTo 2046 := twoTo_add 52 2046
        _ ≤ m * twoTo (e + 1074).toNat := Nat.mul_le_mul hfull (twoTo_le_twoTo (by omega))
    rw [Nat.min_eq_right hover]
    rfl

/-- The double nearest to a quotient stands where the quotient is rounded to, or with the
infinities. -/
theorem place_ofRatio (negative : Bool) (n : Nat) {d : Nat} (hd : 0 < d) :
    (ofRatio negative n d).place =
      signed negative (min (roundedUnits (n * twoTo 1074) d) infinityPlace) := by
  unfold ofRatio
  by_cases hn : n = 0
  · rw [if_pos hn, hn, Nat.zero_mul]
    have hzero : roundedUnits 0 d = 0 := by
      simpa using roundedUnits_of_fits (d := d) (s := 0) (t := 0) hd (twoTo_pos 53)
    rw [hzero, Nat.zero_min, signed_zero]
    show (FiniteNumber.zero negative).scaled = 0
    cases negative <;> decide
  · rw [if_neg hn]
    dsimp only
    have hexponent := toNat_exponent_eq (Nat.pos_of_ne_zero hn) hd
    have hbottom : -1074 ≤ max (log2Ratio n d - 52) (-1074) := Int.le_max_right _ _
    generalize max (log2Ratio n d - 52) (-1074) = e at hexponent hbottom ⊢
    rw [roundDiv_exponent_eq n d hbottom, hexponent]
    have hle := roundDiv_le_twoTo hd (n * twoTo 1074)
    have hfull : twoTo 52 ≤ roundDiv (n * twoTo 1074)
        (d * twoTo (droppedBits (n * twoTo 1074) d)) ∨ e = -1074 := by
      rcases Nat.eq_zero_or_pos (droppedBits (n * twoTo 1074) d) with hnone | hsome
      · right
        omega
      · exact .inl (twoTo_le_roundDiv hd hsome)
    unfold roundedUnits
    rw [← hexponent] at hle hfull ⊢
    generalize roundDiv (n * twoTo 1074) (d * twoTo (e + 1074).toNat) = m at hle hfull ⊢
    split
    · next hm =>
      have hnext : (e + 1 + 1074).toNat = 1 + (e + 1074).toNat := by omega
      rw [place_ofCanonical (by decide) (by omega) (.inl (Nat.le_refl _)), hnext, twoTo_add 1,
        ← Nat.mul_assoc, hm]
      rfl
    · next hm => exact place_ofCanonical (Nat.lt_of_le_of_ne hle hm) hbottom hfull

/-- The double nearest to an integer. -/
theorem place_ofInt (i : Int) :
    (ofInt i).place =
      signed (i < 0) (min (roundedUnits (i.natAbs * twoTo 1074) 1) infinityPlace) :=
  place_ofRatio _ _ Nat.one_pos

/-- The doubles nearest to integers are ordered as these are. -/
theorem place_ofInt_mono {i j : Int} (h : i ≤ j) : (ofInt i).place ≤ (ofInt j).place := by
  rw [place_ofInt, place_ofInt]
  apply signed_le_signed (f := fun m => min (roundedUnits (m * twoTo 1074) 1) infinityPlace) _ h
  intro m k hmk
  have hle : roundedUnits (m * twoTo 1074) 1 ≤ roundedUnits (k * twoTo 1074) 1 :=
    roundedUnits_mono Nat.one_pos Nat.one_pos
      (Nat.mul_le_mul_right 1 (Nat.mul_le_mul_right _ hmk))
  omega

/-- A magnitude with a sign is rounded without the sign. -/
theorem place_ofInt_signed (negative : Bool) (m : Nat) :
    (ofInt (signed negative m)).place =
      signed negative (min (roundedUnits (m * twoTo 1074) 1) infinityPlace) := by
  rw [place_ofInt, natAbs_signed]
  by_cases hm : m = 0
  · have hzero : roundedUnits 0 1 = 0 := by decide
    rw [hm, Nat.zero_mul, hzero, Nat.zero_min, signed_zero, signed_zero]
  · congr 1
    cases negative
    · simp [signed]
    · simp [signed]
      omega

/-- A double that is an integer is the one nearest to it. -/
theorem place_of_toInt? {x : Number} {i : Int} (h : x.toInt? = some i) :
    x.place = (ofInt i).place := by
  cases x with
  | nan | infinite => cases h
  | finite x =>
    obtain ⟨q, hq, rfl⟩ := FiniteNumber.exists_of_toInt? h
    have hfits := roundedUnits_of_fits (t := (x.exponent + 1074).toNat) Nat.one_pos
      x.significand_lt
    rw [Nat.one_mul] at hfits
    rw [place_ofInt_signed, hq, show roundedUnits x.units 1 = x.units from hfits,
      Nat.min_eq_left (Nat.le_of_lt x.units_lt)]
    exact x.scaled_eq

/-- The double nearest to a quotient is a number. -/
theorem ofRatio_ne_nan (negative : Bool) (n d : Nat) : ofRatio negative n d ≠ .nan := by
  unfold ofRatio ofCanonical
  dsimp only
  repeat' split
  all_goals simp

end Number

end FieldValidation
