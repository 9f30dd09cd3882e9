import FieldValidation.Proofs.Number.Numerals
import FieldValidation.Rule.Checks

/-!
# The order of numeric values

Two values that both stand for integers are compared as integers, any other two as doubles. The
double nearest to an integer keeps the order of the integers but may make two of them equal, so the
two ways of comparing agree up to such equalities. They show where a value that stands for no
integer lies between two that do: all three are read as one double, and yet the two integers differ.

Doubles are compared by their difference, and there is none between an infinity and itself. So
values are comparable unless they are read as one infinity and are not both integers.

## Main definitions

* `Value.Comparable`: whether two values have an order
* `Value.AtMost`: a value is not above another
* `Value.Bridges`: a value that reads as the same double as two integers

## Main results

* `Value.exists_compareNumeric`: two comparable values have an order, and its reverse the other
  way round
* `Value.AtMost.trans_or_bridges`: the order is transitive but for bridges
-/

namespace FieldValidation

namespace Value

variable {a b c : Value} {i j : Int}

/-- Two values stand for integers. -/
def BothIntegers (a b : Value) : Prop := a.exactInteger?.isSome ∧ b.exactInteger?.isSome

/-- Two values are read as one infinity. -/
def SameInfinity (a b : Value) : Prop :=
  ∃ negative, a.toNumber = .infinite negative ∧ b.toNumber = .infinite negative

/-- Two values have an order as numbers. -/
def Comparable (a b : Value) : Prop := BothIntegers a b ∨ ¬ SameInfinity a b

/-- A value is below another one or equal to it. -/
def AtMost (a b : Value) : Prop := (compareNumeric a b).any Ordering.isLE = true

instance : Decidable (AtMost a b) := inferInstanceAs (Decidable (_ = true))

/-- A value that stands for no integer is read as the same double as two that do. -/
structure Bridges (b a c : Value) : Prop where
  integers : BothIntegers a c
  no_integer : b.exactInteger? = none
  left_equals : a.toNumber.equals b.toNumber = true
  right_equals : b.toNumber.equals c.toNumber = true

theorem BothIntegers.exists_integers (h : BothIntegers a b) :
    ∃ i j, a.exactInteger? = some i ∧ b.exactInteger? = some j := by
  obtain ⟨i, hi⟩ := Option.isSome_iff_exists.mp h.1
  obtain ⟨j, hj⟩ := Option.isSome_iff_exists.mp h.2
  exact ⟨i, j, hi, hj⟩

theorem BothIntegers.symm (h : BothIntegers a b) : BothIntegers b a := ⟨h.2, h.1⟩

theorem SameInfinity.symm : SameInfinity a b → SameInfinity b a
  | ⟨negative, ha, hb⟩ => ⟨negative, hb, ha⟩

/-! ## What is read of a value -/

theorem toNumber_ne_nan (h : a.isNumeric = true) : a.toNumber ≠ .nan := by
  cases a with
  | number x =>
    rintro rfl
    cases h
  | bigint i => exact Number.ofRatio_ne_nan _ _ _
  | text t => exact Number.ofText_ne_nan h
  | _ => cases h

/-- What stands for an integer is read as the double nearest to it. -/
theorem place_toNumber (h : a.exactInteger? = some i) :
    a.toNumber.place = (Number.ofInt i).place := by
  cases a with
  | number x => exact Number.place_of_toInt? h
  | bigint j => rw [← Option.some.inj h]; rfl
  | text t => exact Number.place_ofText h
  | _ => cases h

/-- The order of integers is the order of what is read, unless these are equal. -/
theorem place_le_place (ha : a.exactInteger? = some i) (hb : b.exactInteger? = some j)
    (h : i ≤ j) : a.toNumber.place ≤ b.toNumber.place := by
  rw [place_toNumber ha, place_toNumber hb]
  exact Number.place_ofInt_mono h

/-! ## The two ways of comparing -/

theorem compareNumeric_of_integers (ha : a.exactInteger? = some i) (hb : b.exactInteger? = some j) :
    compareNumeric a b = some (compare i j) := by
  simp only [compareNumeric, ha, hb]

theorem compareNumeric_of_not_integers (h : ¬ BothIntegers a b) :
    compareNumeric a b = a.toNumber.orderByDifference? b.toNumber := by
  unfold compareNumeric
  split
  · next i j ha hb => exact absurd ⟨by rw [ha]; rfl, by rw [hb]; rfl⟩ h
  · rfl

/-- An infinity has no difference from itself. -/
theorem compareNumeric_of_sameInfinity (h : ¬ BothIntegers a b) (hsame : SameInfinity a b) :
    compareNumeric a b = none := by
  obtain ⟨negative, ha, hb⟩ := hsame
  rw [compareNumeric_of_not_integers h, ha, hb, Number.orderByDifference?, if_pos rfl]

/-- The difference of two numbers tells their order, unless they are one infinity. -/
theorem compareNumeric_of_not_sameInfinity (ha : a.isNumeric = true) (hb : b.isNumeric = true)
    (h : ¬ BothIntegers a b) (hsame : ¬ SameInfinity a b) :
    compareNumeric a b = some (compare a.toNumber.place b.toNumber.place) := by
  rw [compareNumeric_of_not_integers h,
    ← Number.compare?_eq (toNumber_ne_nan ha) (toNumber_ne_nan hb)]
  unfold Number.orderByDifference?
  split
  · next x y hx hy =>
    have hne : x ≠ y := fun hxy => hsame ⟨x, hx, hxy ▸ hy⟩
    rw [hx, hy, if_neg hne, Number.compare?, if_neg hne]
  · rfl

/-- The order is reversed where the values change places. -/
theorem compareNumeric_swap (ha : a.isNumeric = true) (hb : b.isNumeric = true) :
    compareNumeric b a = (compareNumeric a b).map Ordering.swap := by
  by_cases hint : BothIntegers a b
  · obtain ⟨i, j, hi, hj⟩ := hint.exists_integers
    rw [compareNumeric_of_integers hi hj, compareNumeric_of_integers hj hi, Option.map_some,
      Int.compare_swap]
  · have hint' : ¬ BothIntegers b a := mt BothIntegers.symm hint
    by_cases hsame : SameInfinity a b
    · rw [compareNumeric_of_sameInfinity hint hsame,
        compareNumeric_of_sameInfinity hint' hsame.symm, Option.map_none]
    · rw [compareNumeric_of_not_sameInfinity ha hb hint hsame,
        compareNumeric_of_not_sameInfinity hb ha hint' (mt SameInfinity.symm hsame),
        Option.map_some, Int.compare_swap]

/-- Two comparable values have an order, and its reverse the other way round. -/
theorem exists_compareNumeric (ha : a.isNumeric = true) (hb : b.isNumeric = true)
    (h : Comparable a b) :
    ∃ order, compareNumeric a b = some order ∧ compareNumeric b a = some order.swap := by
  obtain ⟨order, horder⟩ : ∃ order, compareNumeric a b = some order := by
    by_cases hint : BothIntegers a b
    · obtain ⟨i, j, hi, hj⟩ := hint.exists_integers
      exact ⟨_, compareNumeric_of_integers hi hj⟩
    · exact ⟨_, compareNumeric_of_not_sameInfinity ha hb hint (h.resolve_left hint)⟩
  refine ⟨order, horder, ?_⟩
  rw [compareNumeric_swap ha hb, horder, Option.map_some]

/-- A comparable value is equal to itself. -/
theorem compareNumeric_self (ha : a.isNumeric = true) (h : Comparable a a) :
    compareNumeric a a = some .eq := by
  obtain ⟨order, horder, hswap⟩ := exists_compareNumeric ha ha h
  rw [horder] at hswap
  cases order with
  | eq => exact horder
  | lt | gt => cases hswap

/-! ## Values that are not above one another -/

/-- A value is not above another one where this one stands at or above it. -/
theorem atMost_iff_isGE (ha : a.isNumeric = true) (hb : b.isNumeric = true) :
    AtMost a b ↔ (compareNumeric b a).any Ordering.isGE = true := by
  rw [compareNumeric_swap ha hb, AtMost]
  cases compareNumeric a b with
  | none => rfl
  | some order => rw [Option.map_some, Option.any_some, Option.any_some, Ordering.isGE_swap]

theorem atMost_of_integers (ha : a.exactInteger? = some i) (hb : b.exactInteger? = some j) :
    AtMost a b ↔ i ≤ j := by
  rw [AtMost, compareNumeric_of_integers ha hb, Option.any_some, Int.isLE_compare]

theorem atMost_of_not_integers (ha : a.isNumeric = true) (hb : b.isNumeric = true)
    (h : ¬ BothIntegers a b) :
    AtMost a b ↔ ¬ SameInfinity a b ∧ a.toNumber.place ≤ b.toNumber.place := by
  unfold AtMost
  by_cases hsame : SameInfinity a b
  · simp [compareNumeric_of_sameInfinity h hsame, hsame]
  · rw [compareNumeric_of_not_sameInfinity ha hb h hsame, Option.any_some, Int.isLE_compare]
    simp [hsame]

/-- A value that is not above another one is not read as more. -/
theorem AtMost.place_le (ha : a.isNumeric = true) (hb : b.isNumeric = true) (h : AtMost a b) :
    a.toNumber.place ≤ b.toNumber.place := by
  by_cases hint : BothIntegers a b
  · obtain ⟨i, j, hi, hj⟩ := hint.exists_integers
    exact place_le_place hi hj ((atMost_of_integers hi hj).mp h)
  · exact ((atMost_of_not_integers ha hb hint).mp h).2

/-- Values that are read as one infinity are not told apart unless they are integers. -/
theorem AtMost.bothIntegers (ha : a.isNumeric = true) (hb : b.isNumeric = true) (h : AtMost a b)
    (hsame : SameInfinity a b) : BothIntegers a b :=
  Classical.byContradiction fun hint => ((atMost_of_not_integers ha hb hint).mp h).1 hsame

/-- What is read between one infinity and itself is this infinity. -/
theorem SameInfinity.between (hb : b.isNumeric = true) (h : SameInfinity a c)
    (hab : a.toNumber.place ≤ b.toNumber.place) (hbc : b.toNumber.place ≤ c.toNumber.place) :
    SameInfinity a b ∧ SameInfinity b c := by
  obtain ⟨negative, ha, hc⟩ := h
  rw [ha] at hab
  rw [hc] at hbc
  have hinfinite : b.toNumber = .infinite negative :=
    Number.eq_infinite_of_place (toNumber_ne_nan hb) (Int.le_antisymm hbc hab)
  exact ⟨⟨negative, ha, hinfinite⟩, ⟨negative, hinfinite, hc⟩⟩

theorem equals_of_place (ha : a.isNumeric = true) (hb : b.isNumeric = true)
    (h : a.toNumber.place = b.toNumber.place) : a.toNumber.equals b.toNumber = true := by
  rw [Number.equals, Number.compare?_eq (toNumber_ne_nan ha) (toNumber_ne_nan hb), h,
    Int.compare_eq_eq.mpr rfl]
  rfl

/-- The order of values is transitive, but where a value that stands for no integer is read as the
same double as two integers. -/
theorem AtMost.trans_or_bridges (ha : a.isNumeric = true) (hb : b.isNumeric = true)
    (hc : c.isNumeric = true) (hab : AtMost a b) (hbc : AtMost b c) :
    AtMost a c ∨ Bridges b a c := by
  have hplace := hab.place_le ha hb
  have hplace' := hbc.place_le hb hc
  by_cases hint : BothIntegers a c
  · obtain ⟨i, k, hi, hk⟩ := hint.exists_integers
    rw [atMost_of_integers hi hk]
    by_cases hle : i ≤ k
    · exact .inl hle
    · right
      have hback := place_le_place hk hi (by omega)
      refine ⟨hint, ?_, equals_of_place ha hb (by omega), equals_of_place hb hc (by omega)⟩
      cases hj : b.exactInteger? with
      | none => rfl
      | some j =>
        have hij := (atMost_of_integers hi hj).mp hab
        have hjk := (atMost_of_integers hj hk).mp hbc
        omega
  · left
    refine (atMost_of_not_integers ha hc hint).mpr ⟨?_, Int.le_trans hplace hplace'⟩
    intro hsame
    obtain ⟨hleft, hright⟩ := hsame.between hb hplace hplace'
    exact hint ⟨(hab.bothIntegers ha hb hleft).1, (hbc.bothIntegers hb hc hright).2⟩

end Value

end FieldValidation
