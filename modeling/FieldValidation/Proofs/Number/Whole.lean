import FieldValidation.Proofs.Number.Identity

/-!
# How whole numbers are written

A whole number is a multiple of one, so as a decimal without fraction it reads back, and the search
for the shortest decimal ends there at the latest. Hence the decimal has no fraction either. Where
the number is below the first that has more places than are written without an exponent, its digits
and the zeros after them are all that is written.

## Main results

* `FiniteNumber.exponent_shortest_nonneg`: the shortest decimal of a whole number has no fraction
* `Number.isRun_written`: whole numbers below `10 ^ 21` are written as runs of digits
-/

namespace FieldValidation

/-- A search through the numbers from zero on ends at a hit at the latest. -/
theorem exists_le_of_findSome?_range {α : Type} {f : Nat → Option α} {n j : Nat} {found : α}
    (h : (List.range n).findSome? f = some found) (hj : f j ≠ none) :
    ∃ k ≤ j, f k = some found := by
  obtain ⟨before, k, after, hrange, hk, hnone⟩ := List.findSome?_eq_some_iff.mp h
  refine ⟨k, ?_, hk⟩
  apply Nat.le_of_not_lt
  intro hlt
  have hbefore : j ∈ before := by
    have hk : k ∈ List.range n := by simp [hrange]
    have hmem : j ∈ before ++ k :: after := by
      rw [← hrange, List.mem_range]
      exact Nat.lt_trans hlt (List.mem_range.mp hk)
    have hsorted : (k :: after).Pairwise (· < ·) :=
      (List.pairwise_append.mp (hrange ▸ List.pairwise_lt_range)).2.1
    rcases List.mem_append.mp hmem with hbefore | hlater
    · exact hbefore
    · rcases List.mem_cons.mp hlater with rfl | hlater
      · exact absurd hlt (Nat.lt_irrefl j)
      · exact absurd hlt (Nat.lt_asymm (List.rel_of_pairwise_cons hsorted hlater))
  exact hj (hnone j hbefore)

/-! ## The shortest decimal of a whole number -/

namespace FiniteNumber

variable {x : FiniteNumber} {i : Int}

/-- A decimal that is found on a grid is one of its points. -/
theorem exponent_of_onGrid? {exponent : Int} {decimal : Decimal}
    (h : x.onGrid? exponent = some decimal) : decimal.exponent = exponent := by
  unfold onGrid? at h
  rcases ite_eq_iff.mp h with ⟨-, h⟩ | ⟨-, h⟩
  · rw [← Option.some.inj h]
  · rcases ite_eq_iff.mp h with ⟨-, h⟩ | ⟨-, h⟩
    · rw [← Option.some.inj h]
    · cases h

theorem ratio_pos (x : FiniteNumber) : 0 < x.ratio.2 := twoTo_pos _

/-- A whole number is found on the grid of the whole numbers. -/
theorem onGrid?_zero_ne_none (h : x.IsInteger i) (hx : x.significand ≠ 0) :
    x.onGrid? 0 ≠ none := by
  obtain ⟨q, hq, hi⟩ := exists_ratio_of_toInt? (toInt?_of_isInteger h)
  have hback : x.readsBack q 0 = true := by
    have hplace : (Decimal.nearest ⟨x.negative, q, 0⟩).place = x.scaled := by
      rw [Number.place_nearest, hi]
      exact (Number.place_of_toInt? (x := .finite x) (toInt?_of_isInteger h)).symm
    obtain ⟨y, hread, hscaled⟩ :=
      Number.exists_finite_of_place (Decimal.nearest_ne_nan _) hplace
    apply decide_eq_true
    rw [hread, ← eq_of_scaled hx hscaled.symm]
  have hnear : roundDiv (x.ratio.1 * tenTo (-0 : Int).toNat) (x.ratio.2 * tenTo (0 : Int).toNat) =
      q := by
    rw [hq, show tenTo (-0 : Int).toNat = 1 from rfl, show tenTo (0 : Int).toNat = 1 from rfl,
      Nat.mul_one, Nat.mul_one, roundDiv_mul_right x.ratio_pos]
  unfold onGrid?
  dsimp only
  rw [hnear, if_pos hback]
  exact Option.some_ne_none _

/-- The first grid that is tried for a number from one on is that of its first digit. -/
theorem exists_log10Ratio {n d : Nat} (h : d ≤ n) :
    ∃ top : Nat, log10Ratio n d = top ∧ top + 1 = (Nat.toDigits 10 (n / d)).length := by
  have hpos : 0 < (Nat.toDigits 10 (n / d)).length := Nat.length_toDigits_pos
  refine ⟨(Nat.toDigits 10 (n / d)).length - 1, ?_, Nat.sub_add_cancel hpos⟩
  rw [log10Ratio, if_pos h, digitCount]
  omega

/-- A number of eighteen digits or more has no fraction, for a double with a fraction is below the
first that has more digits than fit. -/
theorem exponent_nonneg_of_large (h : tenTo 17 ≤ x.ratio.1 / x.ratio.2) : 0 ≤ x.exponent := by
  apply Int.not_lt.mp
  intro hneg
  have hwhole : x.exponent.toNat = 0 := by omega
  have hlt : x.ratio.1 / x.ratio.2 < twoTo 53 :=
    calc x.ratio.1 / x.ratio.2 ≤ x.ratio.1 := Nat.div_le_self _ _
      _ = x.significand := by rw [ratio, hwhole, show twoTo 0 = 1 from rfl, Nat.mul_one]
      _ < twoTo 53 := x.significand_lt
  exact absurd (Nat.lt_of_le_of_lt h hlt) (by decide)

/-- The shortest decimal of a whole number has no fraction: were the whole numbers not tried, it
would have more digits than there are grids. -/
theorem exponent_shortest_nonneg (h : x.IsInteger i) (hx : x.significand ≠ 0) :
    0 ≤ x.shortest.exponent := by
  obtain ⟨q, hq, -⟩ := exists_ratio_of_toInt? (toInt?_of_isInteger h)
  have hle : x.ratio.2 ≤ x.ratio.1 :=
    Nat.le_of_dvd (Nat.mul_pos (Nat.pos_of_ne_zero hx) (twoTo_pos _)) ⟨q, hq⟩
  obtain ⟨top, htop, hdigits⟩ := exists_log10Ratio hle
  have hhit : x.onGrid? (top - (top : Nat)) ≠ none := by
    rw [Int.sub_self]
    exact onGrid?_zero_ne_none h hx
  unfold shortest
  rw [if_neg hx]
  dsimp only
  rw [htop]
  split
  · next decimal hfound =>
    obtain ⟨k, hk, hgrid⟩ := exists_le_of_findSome?_range hfound hhit
    rw [exponent_of_onGrid? hgrid]
    omega
  · next hnone =>
    have hmany : 17 ≤ top := by
      apply Nat.le_of_not_lt
      intro hlt
      exact hhit (List.findSome?_eq_none_iff.mp hnone top (List.mem_range.mpr hlt))
    have hlarge : tenTo 17 ≤ x.ratio.1 / x.ratio.2 := by
      apply Nat.le_of_not_lt
      intro hlt
      have hfew := (Nat.length_toDigits_le_iff (by decide) (by decide)).mpr hlt
      omega
    exact Int.le_min.mpr ⟨exponent_nonneg_of_large hlarge, Int.le_refl 0⟩

/-- The shortest decimal of a whole number reads back as the integer nearest to it. -/
theorem place_ofInt_shortest (h : x.IsInteger i) (hx : x.significand ≠ 0) :
    (Number.ofInt (signed x.negative
      (x.shortest.digits * tenTo x.shortest.exponent.toNat))).place = i * twoTo 1074 := by
  obtain ⟨hplace, hnegative⟩ := x.place_nearest_shortest
  have hexponent : (0 : Int) + x.shortest.exponent.toNat = x.shortest.exponent := by
    have := exponent_shortest_nonneg h hx
    omega
  rw [← Number.place_nearest, Decimal.place_nearest_shift, hexponent, ← hnegative]
  exact hplace.trans h

theorem negative_eq_false (hx : x.significand ≠ 0) (h : 0 ≤ x.scaled) : x.negative = false := by
  have hpos := units_pos hx
  cases hneg : x.negative with
  | false => rfl
  | true =>
    rw [scaled_eq, hneg, signed, if_pos rfl] at h
    omega

end FiniteNumber

namespace Number

variable {x : FiniteNumber} {i : Int}

/-! ## Its text -/

/-- The first number that is written with an exponent is a double. -/
theorem place_ofInt_tenTo : (ofInt (tenTo 21 : Nat)).place = (tenTo 21 : Nat) * twoTo 1074 := by
  have hsplit : tenTo 21 = 5 ^ 21 * twoTo 21 := by decide
  have hround :=
    roundedUnits_of_fits (d := 1) (s := 5 ^ 21) (t := 21 + 1074) Nat.one_pos (by decide)
  rw [Nat.one_mul, twoTo_add, ← Nat.mul_assoc, ← hsplit] at hround
  have hfinite : tenTo 21 * twoTo 1074 ≤ infinityPlace :=
    calc tenTo 21 * twoTo 1074 ≤ twoTo 70 * twoTo 1074 := Nat.mul_le_mul_right _ (by decide)
      _ = twoTo (70 + 1074) := (twoTo_add _ _).symm
      _ ≤ infinityPlace := twoTo_le_twoTo (by decide)
  have hsigned := place_ofInt_signed false (tenTo 21)
  rw [hround, Nat.min_eq_left hfinite] at hsigned
  rw [show ((tenTo 21 : Nat) : Int) = signed false (tenTo 21) from rfl, hsigned, signed_mul]

/-- The digits of a decimal below `10 ^ 21` end before the last place that is written. -/
theorem point_le {decimal : Decimal} (hexponent : 0 ≤ decimal.exponent)
    (hdigits : decimal.digits ≠ 0)
    (h : decimal.digits * tenTo decimal.exponent.toNat < tenTo 21) :
    (digitsAndPoint decimal).2 ≤ positionalBelow := by
  have hfits : decimal.exponent.toNat < 21 := by
    apply Nat.lt_of_not_le
    intro hle
    refine absurd h (Nat.not_lt.mpr ?_)
    calc tenTo 21 ≤ tenTo decimal.exponent.toNat := Nat.pow_le_pow_right (by decide) hle
      _ ≤ decimal.digits * tenTo decimal.exponent.toNat :=
        Nat.le_mul_of_pos_left _ (Nat.pos_of_ne_zero hdigits)
  have hlength : (Text.ofNat decimal.digits).length ≤ 21 - decimal.exponent.toNat := by
    rw [Text.ofNat, List.length_map]
    refine (Nat.length_toDigits_le_iff (by decide) (by omega)).mpr ?_
    apply Nat.lt_of_mul_lt_mul_right (a := tenTo decimal.exponent.toNat)
    calc decimal.digits * tenTo decimal.exponent.toNat < tenTo 21 := h
      _ = tenTo (21 - decimal.exponent.toNat) * tenTo decimal.exponent.toNat := by
        rw [← tenTo_add, Nat.sub_add_cancel (Nat.le_of_lt hfits)]
  show ((Text.ofNat decimal.digits).length : Int) + decimal.exponent ≤ 21
  omega

/-- Digits that end before the point are written with zeros after them. -/
theorem isRun_layout {digits : Text} {point : Int} (hne : digits ≠ [])
    (h : ∀ u ∈ digits, u.isDigit = true) (hlength : (digits.length : Int) ≤ point)
    (hpoint : point ≤ positionalBelow) : Text.IsRun (layout digits point) := by
  unfold layout
  dsimp only
  rw [if_pos ⟨hlength, hpoint⟩]
  constructor
  · simp [hne]
  · exact List.all_eq_true.mpr
      (List.forall_mem_append.mpr ⟨h, fun _ => Text.isDigit_of_mem_zeros⟩)

/-- A whole number below `10 ^ 21` is written as a run of digits. -/
theorem isRun_written (h : x.IsInteger i) (hpos : 0 ≤ i) (hlt : i < tenTo 21) :
    Text.IsRun (written (.finite x)) := by
  unfold written
  dsimp only
  split
  · exact Text.isRun_ofNat 0
  · next hx =>
    have hexponent := FiniteNumber.exponent_shortest_nonneg h hx
    have hdigits := FiniteNumber.digits_shortest_ne_zero hx
    have hnonneg : 0 ≤ x.scaled := by
      rw [h]
      exact Int.mul_nonneg hpos (Int.natCast_nonneg _)
    have hnegative := FiniteNumber.negative_eq_false hx hnonneg
    have hbelow : x.shortest.digits * tenTo x.shortest.exponent.toNat < tenTo 21 := by
      apply Nat.lt_of_not_le
      intro hle
      have hmono : (ofInt (tenTo 21 : Nat)).place ≤ i * twoTo 1074 := by
        rw [← FiniteNumber.place_ofInt_shortest h hx, hnegative]
        exact place_ofInt_mono (Int.ofNat_le.mpr hle)
      rw [place_ofInt_tenTo] at hmono
      have := Int.le_of_mul_le_mul_right hmono (Int.natCast_pos.mpr (twoTo_pos 1074))
      omega
    obtain ⟨k, -, hpoint⟩ := exists_of_digitsAndPoint x.shortest
    have hrun := isRun_layout (digitsAndPoint_ne_nil hdigits) isDigit_digitsAndPoint (by omega)
      (point_le hexponent hdigits hbelow)
    rw [hnegative]
    exact hrun

end Number

end FieldValidation
