import FieldValidation.Proofs.Rule.IntegerBounds
import FieldValidation.Proofs.Rule.NumericTypes
import FieldValidation.Proofs.Text.Characters

/-!
# Bounds on the length of texts

The rules that bound the length of a text take a bound that is a safe integer, or spells one. The
number of characters is compared with it as a double. A text that is longer than the doubles tell
apart is rounded to a double, but it is not rounded past a safe integer; so the bounds are exact for
all texts.

## Main results

* `Number.toInt?_ofText_eq_some_iff`: no numeral of another integer is read as a safe one
* `Value.exists_denotes_of_isIntegerLike`: a bound on the length denotes a safe integer
* `Value.isIntegerLike_ofInt`: every safe integer is such a bound as it is written
* `BuiltinRule.lengthBounds_of_isIntegerLike`: the bounds count characters
-/

namespace FieldValidation

/-! ## Safe integers in writing -/

namespace Text

/-- The digits of a positive number do not begin with zero. -/
theorem exists_ofNat_of_pos {n : Nat} (h : 0 < n) :
    ∃ u rest, ofNat n = u :: rest ∧ u.isDigit = true ∧ u ≠ unit '0' ∧
      ∀ v ∈ rest, v.isDigit = true := by
  have hfront : ∃ u rest, ofNat n = u :: rest ∧ u ≠ unit '0' := by
    induction n using Nat.strongRecOn with
    | ind n ih =>
      by_cases hten : n < 10
      · exact ⟨digit n, [], ofNat_of_lt_ten hten, (CodeUnit.digit_ne_zero_iff hten).mpr h⟩
      · obtain ⟨u, rest, hrest, hu⟩ := ih (n / 10) (by omega) (by omega)
        refine ⟨u, rest ++ [digit (n % 10)], ?_, hu⟩
        rw [ofNat_eq, if_neg hten, hrest, List.cons_append]
  obtain ⟨u, rest, hdigits, hu⟩ := hfront
  have hall : ∀ v ∈ u :: rest, v.isDigit = true := fun v hv => isDigit_ofNat (hdigits ▸ hv)
  obtain ⟨hhead, hrest⟩ := List.forall_mem_cons.mp hall
  exact ⟨u, rest, hdigits, hhead, hu, hrest⟩

theorem isCanonicalDigits_ofNat (n : Nat) : isCanonicalDigits (ofNat n) = true := by
  rw [isCanonicalDigits_iff]
  rcases Nat.eq_zero_or_pos n with rfl | hn
  · exact .inl rfl
  · exact .inr (exists_ofNat_of_pos hn)

/-- An integer is written as its sign and its digits. -/
theorem exists_isSign_ofInt (i : Int) :
    ∃ sign, IsSign sign (i < 0) ∧ ofInt i = sign ++ ofNat i.natAbs := by
  unfold ofInt
  split
  · next hneg =>
    rw [decide_eq_true hneg]
    exact ⟨_, .minus, rfl⟩
  · next hpos =>
    rw [decide_eq_false hpos]
    exact ⟨_, .none, rfl⟩

theorem isCanonicalInteger_ofInt (i : Int) : isCanonicalInteger (ofInt i) = true := by
  obtain ⟨sign, hsign, htext⟩ := exists_isSign_ofInt i
  have hdigits : ∀ u ∈ ofNat i.natAbs, u.isDigit = true := fun _ => isDigit_ofNat
  have htrim : trim (ofInt i) = sign ++ ofNat i.natAbs := by
    have hbetween : trim ([] ++ (sign ++ ofNat i.natAbs ++ [])) = sign ++ ofNat i.natAbs :=
      trim_integer nofun hsign hdigits nofun
    rw [List.nil_append, List.append_nil] at hbetween
    rw [htext, hbetween]
  have htake :=
    takeSign_of_isSign hsign (isUnsignedNumeral_of_digits (ofNat_ne_nil i.natAbs) hdigits)
  rw [isCanonicalInteger, htrim, ← snd_takeSign, htake]
  exact isCanonicalDigits_ofNat i.natAbs

theorem spells_ofNat (n : Nat) : Spells (ofNat n) n :=
  spells_iff.mpr ⟨ofNat_ne_nil n, fun _ => isDigit_ofNat, decimalValue_ofNat n⟩

theorem denotes_ofInt (i : Int) : Value.Denotes (.text (ofInt i)) i := by
  obtain ⟨sign, hsign, htext⟩ := exists_isSign_ofInt i
  have hdenotes : Value.Denotes (.text ([] ++ (sign ++ ofNat i.natAbs ++ [])))
      (signed (i < 0) i.natAbs) := .text nofun hsign (spells_ofNat i.natAbs) nofun
  rwa [List.nil_append, List.append_nil, signed_natAbs, ← htext] at hdenotes

end Text

namespace Number

variable {i j : Int}

theorem ofInt_natCast (n : Nat) : ofInt n = ofNat n := by
  have hpos : ¬ (n : Int) < 0 := by omega
  rw [ofInt, ofNat, decide_eq_false hpos, Int.natAbs_natCast]

theorem isSafeInteger_iff {x : Number} :
    x.isSafeInteger = true ↔ ∃ i, x.toInt? = some i ∧ i.natAbs ≤ maxSafeInteger := by
  unfold isSafeInteger
  cases x.toInt? <;> simp

/-- The doubles nearest to two integers are in the order of these, if one of them is safe. -/
theorem compare_place_ofInt (hsafe : j.natAbs ≤ maxSafeInteger) :
    compare (ofInt i).place (ofInt j).place = compare i j := by
  have hinj : (ofInt i).place = (ofInt j).place → i = j := fun h =>
    (ofInt_inj_of_place hsafe h.symm).symm
  rcases Int.lt_trichotomy i j with hlt | rfl | hgt
  · have hplace := place_ofInt_mono (Int.le_of_lt hlt)
    rw [Int.compare_eq_lt.mpr hlt, Int.compare_eq_lt]
    omega
  · rw [Int.compare_eq_eq.mpr rfl, Int.compare_eq_eq.mpr rfl]
  · have hplace := place_ofInt_mono (Int.le_of_lt hgt)
    rw [Int.compare_eq_gt.mpr hgt, Int.compare_eq_gt]
    omega

/-- A number at the place of a safe integer is this integer. -/
theorem toInt?_of_place {x : Number} (hx : x ≠ .nan) (hsafe : i.natAbs ≤ maxSafeInteger)
    (h : x.place = (ofInt i).place) : x.toInt? = some i := by
  have hbound : i.natAbs < twoTo 53 := by
    unfold maxSafeInteger at hsafe
    have := twoTo_pos 53
    omega
  rw [place_ofInt_of_le (Nat.le_of_lt hbound)] at h
  cases x with
  | nan => exact absurd rfl hx
  | finite x => exact FiniteNumber.toInt?_of_isInteger h
  | infinite negative =>
    have hplace : infinityPlace = i.natAbs * twoTo 1074 := by
      have habs := congrArg Int.natAbs h
      rwa [place, natAbs_signed, Int.natAbs_mul, Int.natAbs_natCast] at habs
    have hlt : i.natAbs * twoTo 1074 < infinityPlace :=
      calc i.natAbs * twoTo 1074 < twoTo 53 * twoTo 1074 :=
            Nat.mul_lt_mul_of_pos_right hbound (twoTo_pos _)
        _ = twoTo (53 + 1074) := (twoTo_add _ _).symm
        _ ≤ infinityPlace := twoTo_le_twoTo (by decide)
    omega

/-- A numeral is read as a safe integer just where it spells this one: no other is rounded to it. -/
theorem toInt?_ofText_eq_some_iff {t : Text} (h : Text.bigInteger? t = some i)
    (hsafe : j.natAbs ≤ maxSafeInteger) : (ofText t).toInt? = some j ↔ i = j := by
  have hplace := place_ofText h
  constructor
  · intro hread
    exact (ofInt_inj_of_place hsafe ((place_of_toInt? hread).symm.trans hplace)).symm
  · rintro rfl
    have hnumeral : t.isNumeral = true :=
      Value.isNumeric_of_denotes (Text.denotes_of_bigInteger? h)
    exact toInt?_of_place (ofText_ne_nan hnumeral) hsafe hplace

end Number

namespace Value

variable {v : Value} {i : Int}

/-- What is or spells a safe integer denotes it. -/
theorem exists_denotes_of_isIntegerLike (h : v.isIntegerLike = true) :
    ∃ i, v.Denotes i ∧ i.natAbs ≤ Number.maxSafeInteger := by
  cases v with
  | number x =>
    obtain ⟨i, hi, hsafe⟩ := Number.isSafeInteger_iff.mp h
    exact ⟨i, denotes_iff.mpr ⟨hi, fun _ _ => hsafe⟩, hsafe⟩
  | text t =>
    obtain ⟨hcanonical, hread⟩ := Bool.and_eq_true_iff.mp h
    obtain ⟨i, hi, hsafe⟩ := Number.isSafeInteger_iff.mp hread
    obtain ⟨j, hj⟩ :=
      Option.isSome_iff_exists.mp (Text.isNumeral_of_isCanonicalInteger hcanonical).2
    obtain rfl : j = i := (Number.toInt?_ofText_eq_some_iff hj hsafe).mp hi
    exact ⟨j, Text.denotes_of_bigInteger? hj, hsafe⟩
  | _ => cases h

/-- A value denotes one integer at most. -/
theorem Denotes.unique {j : Int} (hi : v.Denotes i) (hj : v.Denotes j) : i = j :=
  Option.some.inj ((exactInteger?_of_denotes hi).symm.trans (exactInteger?_of_denotes hj))

/-- A safe integer is a bound on the length as it is written. -/
theorem isIntegerLike_ofInt (hsafe : i.natAbs ≤ Number.maxSafeInteger) :
    (Value.text (Text.ofInt i)).isIntegerLike = true := by
  have hspelled : Text.bigInteger? (Text.ofInt i) = some i :=
    exactInteger?_of_denotes (Text.denotes_ofInt i)
  have hread : (Number.ofText (Text.ofInt i)).toInt? = some i :=
    (Number.toInt?_ofText_eq_some_iff hspelled hsafe).mpr rfl
  exact Bool.and_eq_true_iff.mpr
    ⟨Text.isCanonicalInteger_ofInt i, Number.isSafeInteger_iff.mpr ⟨i, hread, hsafe⟩⟩

end Value

namespace BuiltinRule

variable {thisYear : Nat} {parameter : Value} {s : Text} {z : Int}

/-- The number of characters stands to a bound as it does as an integer. -/
theorem compare?_characterLength (h : parameter.Denotes z)
    (hsafe : z.natAbs ≤ Number.maxSafeInteger) :
    (characterLength (.text s)).compare? parameter.toNumber =
      some (compare (s.characterCount : Int) z) := by
  have hlength : characterLength (.text s) = Number.ofInt s.characterCount := by
    rw [characterLength, Text.length_codePoints, Number.ofInt_natCast]
  have hplace := Value.place_toNumber (Value.exactInteger?_of_denotes h)
  have hnumber : Number.ofInt s.characterCount ≠ .nan := Number.ofRatio_ne_nan _ _ _
  have hbound := Value.toNumber_ne_nan (Value.isNumeric_of_denotes h)
  rw [hlength, Number.compare?_eq hnumber hbound, hplace, Number.compare_place_ofInt hsafe]

/-- A bound on the length keeps the texts whose number of characters stands in an accepted order to
it. -/
theorem lengthBound_eq_passes_iff {accepted : Ordering → Bool} {refusal misuse : Phrase}
    (hlike : parameter.isIntegerLike = true) (h : parameter.Denotes z) :
    lengthBound (Checks.standard thisYear) accepted refusal misuse (.text s) parameter = .passes ↔
      accepted (compare (s.characterCount : Int) z) = true := by
  obtain ⟨i, hi, hsafe⟩ := Value.exists_denotes_of_isIntegerLike hlike
  rw [hi.unique h] at hsafe
  unfold lengthBound
  rw [compare?_characterLength h hsafe]
  simp [Checks.standard, Value.isText, hlike]

theorem accepts_minLength_iff (hlike : parameter.isIntegerLike = true) (h : parameter.Denotes z) :
    BuiltinRule.minLength.Accepts thisYear parameter (.text s) ↔ z ≤ s.characterCount := by
  rw [accepts_iff, verdict, lengthBound_eq_passes_iff hlike h, Int.isGE_compare]

theorem accepts_maxLength_iff (hlike : parameter.isIntegerLike = true) (h : parameter.Denotes z) :
    BuiltinRule.maxLength.Accepts thisYear parameter (.text s) ↔ s.characterCount ≤ z := by
  rw [accepts_iff, verdict, lengthBound_eq_passes_iff hlike h, Int.isLE_compare]

/-- The bounds on the length count characters, each surrogate pair as one, and compare their number
with the safe integer that the bound denotes, on all texts: a lower bound accepts those with as many
characters or more, an upper bound those with as many or fewer. So a text either meets a lower bound
or the upper bound right below it, which there is for all but the lowest, and it meets both bounds
just where it has as many characters as they say. The characters of two texts one after the other
are those of both, but for two halves of a surrogate pair that meet. -/
theorem lengthBounds_of_isIntegerLike (thisYear : Nat) {parameter : Value}
    (h : parameter.isIntegerLike = true) :
    (∃ z : Int, parameter.Denotes z ∧ z.natAbs ≤ Number.maxSafeInteger ∧
      (∀ s : Text,
        (BuiltinRule.minLength.Accepts thisYear parameter (.text s) ↔ z ≤ s.characterCount) ∧
        (BuiltinRule.maxLength.Accepts thisYear parameter (.text s) ↔ s.characterCount ≤ z) ∧
        (BuiltinRule.minLength.Accepts thisYear parameter (.text s) ∧
          BuiltinRule.maxLength.Accepts thisYear parameter (.text s) ↔ s.characterCount = z)) ∧
      (∀ below : Value, below.isIntegerLike = true → below.Denotes (z - 1) → ∀ s : Text,
        (BuiltinRule.minLength.Accepts thisYear parameter (.text s) ↔
          ¬ BuiltinRule.maxLength.Accepts thisYear below (.text s))) ∧
      ((z - 1).natAbs ≤ Number.maxSafeInteger →
        (Value.text (Text.ofInt (z - 1))).isIntegerLike = true ∧
          (Value.text (Text.ofInt (z - 1))).Denotes (z - 1))) ∧
    ∀ s t : Text,
      (¬ s.MeetInPair t → (s ++ t).characterCount = s.characterCount + t.characterCount) ∧
      (s.MeetInPair t → (s ++ t).characterCount + 1 = s.characterCount + t.characterCount) := by
  obtain ⟨z, hz, hsafe⟩ := Value.exists_denotes_of_isIntegerLike h
  refine ⟨⟨z, hz, hsafe, fun s => ?_, ?_, ?_⟩, Text.characterCount_append⟩
  · rw [accepts_minLength_iff h hz, accepts_maxLength_iff h hz]
    refine ⟨Iff.rfl, Iff.rfl, ?_⟩
    omega
  · intro below hlike hbelow s
    rw [accepts_minLength_iff h hz, accepts_maxLength_iff hlike hbelow]
    omega
  · exact fun hbelow => ⟨Value.isIntegerLike_ofInt hbelow, Text.denotes_ofInt _⟩

/-- A surrogate pair and the second half of another one are two characters. -/
theorem lengthBounds_of_isIntegerLike_surrogates :
    let parameter := Value.ofString " +2\t"
    let value := Value.text [0xD83D, 0xDE00, 0xDE00]
    parameter.isIntegerLike = true ∧ BuiltinRule.minLength.Accepts 2024 parameter value ∧
      BuiltinRule.maxLength.Accepts 2024 parameter value ∧
      ¬ BuiltinRule.maxLength.Accepts 2024 (.text (Text.ofInt 1)) value := by
  intro parameter value
  have hlike : parameter.isIntegerLike = true := by decide +kernel
  have hdenotes : (Value.ofString " +2\t").Denotes 2 := by
    refine Value.denotes_iff.mpr ⟨by decide +kernel, ?_⟩
    intro x hx
    cases hx
  obtain ⟨⟨z, hz, -, hbounds, hbelow, hwritten⟩, -⟩ := lengthBounds_of_isIntegerLike 2024 hlike
  obtain rfl := hz.unique hdenotes
  obtain ⟨hmin, hmax, -⟩ := hbounds [0xD83D, 0xDE00, 0xDE00]
  obtain ⟨hone, hone'⟩ := hwritten (by decide)
  have hlower : BuiltinRule.minLength.Accepts 2024 parameter value := hmin.mpr (by decide)
  have hupper := (hbelow _ hone hone' [0xD83D, 0xDE00, 0xDE00]).mp hlower
  rw [show (2 - 1 : Int) = 1 from rfl] at hupper
  exact ⟨hlike, hlower, hmax.mpr (by decide), hupper⟩

end BuiltinRule

end FieldValidation
