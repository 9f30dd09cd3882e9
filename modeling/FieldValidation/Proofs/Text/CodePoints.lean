import FieldValidation.Text.Basic

/-!
# Code points and units

The code points of a text never have the first half of a surrogate pair right before the second,
since the two would have been taken as one. Where this is so of a sequence of code points, they are
the code points of the text they make.

## Main definitions

* `Text.Separate`: no half of a surrogate pair stands right before the other
* `Text.IsWellFormed`: every surrogate stands in a pair

## Main results

* `Text.separate_codePoints`: the code points of a text
* `Text.codePoints_ofCodePoints`: the code points of the text of code points
* `Text.ofCodePoints_codePoints`: the text of the code points of a text
* `Text.wellFormed_eq_self`: a text without unpaired surrogates
-/

namespace FieldValidation

namespace CodeUnit

theorem isHighSurrogate_iff (u : CodeUnit) :
    u.isHighSurrogate = true ↔ 0xD800 ≤ u.toNat ∧ u.toNat ≤ 0xDBFF := by
  simp [isHighSurrogate, UInt16.le_iff_toNat_le]

theorem isLowSurrogate_iff (u : CodeUnit) :
    u.isLowSurrogate = true ↔ 0xDC00 ≤ u.toNat ∧ u.toNat ≤ 0xDFFF := by
  simp [isLowSurrogate, UInt16.le_iff_toNat_le]

end CodeUnit

namespace Text

/-- Whether two code points are the halves of a surrogate pair. -/
def IsPair (n m : Nat) : Prop := (0xD800 ≤ n ∧ n ≤ 0xDBFF) ∧ 0xDC00 ≤ m ∧ m ≤ 0xDFFF

/-- Code points of which none is the first half of a surrogate pair right before the second. -/
def Separate : List Nat → Prop
  | [] => True
  | n :: rest => n < 0x110000 ∧ (∀ m ∈ rest.head?, ¬ IsPair n m) ∧ Separate rest

/-! ## The code points of a text -/

theorem isPair_toNat_iff (u v : CodeUnit) :
    IsPair u.toNat v.toNat ↔ (u.isHighSurrogate && v.isLowSurrogate) = true := by
  rw [Bool.and_eq_true, u.isHighSurrogate_iff, v.isLowSurrogate_iff, IsPair]

/-- The first code point of a text is its first unit, or no surrogate. -/
theorem head?_codePoints (v : CodeUnit) (rest : Text) :
    ∃ m, (codePoints (v :: rest)).head? = some m ∧ (m = v.toNat ∨ 0x10000 ≤ m) := by
  cases rest with
  | nil => exact ⟨v.toNat, rfl, .inl rfl⟩
  | cons w rest =>
    unfold codePoints
    split
    · exact ⟨_, rfl, .inr (by unfold joinSurrogates; omega)⟩
    · exact ⟨_, rfl, .inl rfl⟩

/-- Separate code points are in the range of code points. -/
theorem Separate.lt {cs : List Nat} (h : Separate cs) : ∀ c ∈ cs, c < 0x110000 := by
  induction cs with
  | nil => nofun
  | cons n rest ih =>
    obtain ⟨hn, -, hrest⟩ := h
    exact List.forall_mem_cons.mpr ⟨hn, ih hrest⟩

/-- In the code points of a text no half of a surrogate pair stands right before the other. -/
theorem separate_codePoints (t : Text) : Separate (codePoints t) := by
  fun_induction codePoints t with
  | case1 => trivial
  | case2 u =>
    have hu := u.toNat_lt
    exact ⟨by omega, by simp, trivial⟩
  | case3 u v rest hpair ih =>
    obtain ⟨⟨hu, hu'⟩, hv, hv'⟩ := (isPair_toNat_iff u v).mpr hpair
    refine ⟨by unfold joinSurrogates; omega, fun m _ h => ?_, ih⟩
    unfold IsPair joinSurrogates at h
    omega
  | case4 u v rest hpair ih =>
    have hu := u.toNat_lt
    refine ⟨by omega, fun m hm h => ?_, ih⟩
    obtain ⟨m', hm', hvalue⟩ := head?_codePoints v rest
    obtain rfl : m' = m := Option.some.inj (hm'.symm.trans hm)
    rcases hvalue with rfl | hlarge
    · exact hpair ((isPair_toNat_iff u v).mp h)
    · unfold IsPair at h
      omega

/-! ## The text of code points -/

theorem ofCodePoints_cons (n : Nat) (ns : List Nat) :
    ofCodePoints (n :: ns) = ofCodePoint n ++ ofCodePoints ns :=
  List.flatMap_cons

theorem ofCodePoints_append (ns ms : List Nat) :
    ofCodePoints (ns ++ ms) = ofCodePoints ns ++ ofCodePoints ms :=
  List.flatMap_append

theorem ofCodePoint_ne_nil (n : Nat) : ofCodePoint n ≠ [] := by
  unfold ofCodePoint
  split <;> simp

theorem codePoints_append_of_lt {n : Nat} (hn : n < 0x10000) {rest : Text}
    (hrest : ∀ v ∈ rest.head?, ¬ IsPair n v.toNat) :
    codePoints (ofCodePoint n ++ rest) = n :: codePoints rest := by
  have hunit : n.toUInt16.toNat = n := by simpa using hn
  rw [ofCodePoint, if_pos hn, List.singleton_append]
  cases rest with
  | nil => simp [codePoints, hunit]
  | cons v rest =>
    have hpair : ¬ (CodeUnit.isHighSurrogate n.toUInt16 && v.isLowSurrogate) = true := by
      rw [← isPair_toNat_iff, hunit]
      exact hrest v rfl
    rw [codePoints, if_neg hpair, hunit]

theorem codePoints_append_of_ge {n : Nat} (hn : 0x10000 ≤ n) (hn' : n < 0x110000) (rest : Text) :
    codePoints (ofCodePoint n ++ rest) = n :: codePoints rest := by
  have hhigh : (0xD800 + (n - 0x10000) / 0x400).toUInt16.toNat =
      0xD800 + (n - 0x10000) / 0x400 := by
    rw [Nat.toUInt16, UInt16.toNat_ofNat']
    omega
  have hlow : (0xDC00 + (n - 0x10000) % 0x400).toUInt16.toNat =
      0xDC00 + (n - 0x10000) % 0x400 := by
    rw [Nat.toUInt16, UInt16.toNat_ofNat']
    omega
  rw [ofCodePoint, if_neg (by omega), List.cons_append, List.singleton_append]
  generalize (0xD800 + (n - 0x10000) / 0x400).toUInt16 = high at hhigh ⊢
  generalize (0xDC00 + (n - 0x10000) % 0x400).toUInt16 = low at hlow ⊢
  have hpair : (CodeUnit.isHighSurrogate high && CodeUnit.isLowSurrogate low) = true := by
    rw [← isPair_toNat_iff, hhigh, hlow]
    unfold IsPair
    omega
  have hjoin : joinSurrogates high low = n := by
    unfold joinSurrogates
    omega
  rw [codePoints, if_pos hpair, hjoin]

/-- The first unit of a code point is the code point, or the first half of a surrogate pair. -/
theorem head?_ofCodePoint {m : Nat} (hm : m < 0x110000) {v : CodeUnit} {rest : Text}
    (h : v ∈ (ofCodePoint m ++ rest).head?) :
    v.toNat = m ∨ 0xD800 ≤ v.toNat ∧ v.toNat ≤ 0xDBFF := by
  unfold ofCodePoint at h
  split at h
  · obtain rfl : m.toUInt16 = v := Option.some.inj h
    left
    simpa
  · obtain rfl : (0xD800 + (m - 0x10000) / 0x400).toUInt16 = v := Option.some.inj h
    right
    rw [Nat.toUInt16, UInt16.toNat_ofNat']
    omega

/-- The code points of the text that code points make are those code points. -/
theorem codePoints_ofCodePoints {ns : List Nat} (h : Separate ns) :
    codePoints (ofCodePoints ns) = ns := by
  induction ns with
  | nil => rfl
  | cons n rest ih =>
    obtain ⟨hn, hhead, hrest⟩ := h
    rw [ofCodePoints_cons]
    by_cases hsmall : n < 0x10000
    · rw [codePoints_append_of_lt hsmall, ih hrest]
      intro v hv hpair
      cases rest with
      | nil => cases hv
      | cons m rest =>
        rcases head?_ofCodePoint hrest.1 hv with hvalue | hhigh
        · exact hhead m rfl (hvalue ▸ hpair)
        · unfold IsPair at hpair
          omega
    · rw [codePoints_append_of_ge (by omega) hn, ih hrest]

/-! ## The text of the code points of a text -/

theorem ofCodePoint_toNat (u : CodeUnit) : ofCodePoint u.toNat = [u] := by
  have hu := u.toNat_lt
  rw [ofCodePoint, if_pos (by omega), Nat.toUInt16, UInt16.ofNat_toNat]

/-- The two units of the code point of a surrogate pair are the pair. -/
theorem ofCodePoint_joinSurrogates {u v : CodeUnit}
    (h : (u.isHighSurrogate && v.isLowSurrogate) = true) :
    ofCodePoint (joinSurrogates u v) = [u, v] := by
  obtain ⟨⟨hu, hu'⟩, hv, hv'⟩ := (isPair_toNat_iff u v).mpr h
  have hhigh : 0xD800 + (joinSurrogates u v - 0x10000) / 0x400 = u.toNat := by
    unfold joinSurrogates
    omega
  have hlow : 0xDC00 + (joinSurrogates u v - 0x10000) % 0x400 = v.toNat := by
    unfold joinSurrogates
    omega
  have hlarge : ¬ joinSurrogates u v < 0x10000 := by
    unfold joinSurrogates
    omega
  simp only [ofCodePoint, if_neg hlarge, hhigh, hlow, Nat.toUInt16, UInt16.ofNat_toNat]

/-- The text that the code points of a text make is that text. -/
theorem ofCodePoints_codePoints (t : Text) : ofCodePoints (codePoints t) = t := by
  fun_induction codePoints t with
  | case1 => rfl
  | case2 u => simp [ofCodePoints, ofCodePoint_toNat]
  | case3 u v rest hpair ih =>
    rw [ofCodePoints_cons, ih, ofCodePoint_joinSurrogates hpair]
    rfl
  | case4 u v rest hpair ih =>
    rw [ofCodePoints_cons, ih, ofCodePoint_toNat]
    rfl

/-- Every surrogate in a text stands in a pair: no code point of it is one. -/
def IsWellFormed (t : Text) : Prop := ∀ n ∈ codePoints t, n < 0xD800 ∨ 0xDFFF < n

instance (t : Text) : Decidable t.IsWellFormed :=
  inferInstanceAs (Decidable (∀ n ∈ codePoints t, n < 0xD800 ∨ 0xDFFF < n))

/-- Where every surrogate stands in a pair, none is replaced. -/
theorem wellFormed_eq_self {t : Text} (h : IsWellFormed t) : wellFormed t = t := by
  have hkept : (codePoints t).map (fun n => if 0xD800 ≤ n && n ≤ 0xDFFF then 0xFFFD else n) =
      codePoints t := by
    refine (List.map_congr_left fun n hn => ?_).trans (List.map_id _)
    have hrange := h n hn
    rw [id, if_neg (by simp only [Bool.and_eq_true, decide_eq_true_eq]; omega)]
  rw [wellFormed, hkept, ofCodePoints_codePoints]

end Text

end FieldValidation
