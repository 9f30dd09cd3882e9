import FieldValidation.Proofs.Text.CodePoints
import FieldValidation.Proofs.Text.Digits
import FieldValidation.Text.Lower

/-!
# Lower case is final

What lower-casing leaves of a character is left alone when it is lower-cased again, and no capital
sigma is left for which the letters around it would count. So a text in lower case is its own
lower-case form. Where there is no capital sigma from the start, lower-casing goes character by
character, so texts that differ in nothing but the letter case have one lower-case form.

## Main definitions

* `Unicode.CaseRange.misses`: the images of a range lie outside another range
* `Unicode.Settled`: a character that lower-casing leaves alone, whatever stands around it
* `Text.SameButForCase`: texts that are the same character by character, but for the letter case

## Main results

* `Unicode.lower_lowerForm`: what lower-casing leaves of a character
* `Unicode.lowerFrom_of_settled`: settled characters are left alone
* `Text.toLower_toLower`: lower-casing twice is lower-casing once
* `Text.toLower_of_digits`: digits have no case
* `Text.SameButForCase.toLower_eq`: the letter case is lost in lower-casing
-/

namespace FieldValidation

namespace Unicode

/-! ## Ranges and their images -/

namespace CaseRange

/-- The image of the first character of a range. -/
def imageFirst (r : CaseRange) : Nat := (r.first + r.shift).toNat

/-- The image of the last character of a range. -/
def imageLast (r : CaseRange) : Nat := (r.last + r.shift).toNat

/-- Whether the images of `r` lie outside `s`, either before or after it or between its members. -/
def misses (r s : CaseRange) : Bool :=
  Nat.blt s.last r.imageFirst || Nat.blt r.imageLast s.first ||
    ((r.step == 2 || r.first == r.last) && s.step == 2 && (r.imageFirst + s.first) % 2 == 1)

theorem contains_iff (r : CaseRange) (c : Nat) :
    r.contains c = true ↔ r.first ≤ c ∧ c ≤ r.last ∧ (c - r.first) % r.step = 0 := by
  simp [contains, and_assoc]

/-- An image that misses a range is none of its members. -/
theorem not_contains_image {r s : CaseRange} {c : Nat} (hc : r.contains c = true)
    (hshift : 0 ≤ r.first + r.shift) (h : r.misses s = true) :
    s.contains (c + r.shift).toNat = false := by
  rw [contains_iff] at hc
  obtain ⟨hfirst, hlast, hstep⟩ := hc
  rw [Bool.eq_false_iff, Ne, contains_iff]
  rintro ⟨hfirst', hlast', hstep'⟩
  simp only [misses, Bool.or_eq_true, Bool.and_eq_true, Nat.blt_eq, beq_iff_eq] at h
  unfold imageFirst imageLast at h
  rcases h with (hbefore | hafter) | ⟨⟨hstride | hsingle, htwo⟩, hodd⟩
  · omega
  · omega
  · rw [hstride] at hstep
    rw [htwo] at hstep'
    omega
  · rw [htwo] at hstep'
    omega

/-- A character that no range of a table changes is left alone; any other becomes an image. -/
theorem mapCodePoint_cases (table : List CaseRange) (c : Nat) :
    (mapCodePoint table c = c ∧ ∀ r ∈ table, r.contains c = false) ∨
      ∃ r ∈ table, r.contains c = true ∧ mapCodePoint table c = (c + r.shift).toNat := by
  unfold mapCodePoint
  cases hfind : table.find? (·.contains c) with
  | none => exact .inl ⟨rfl, by simpa using hfind⟩
  | some r =>
    have hcontains := List.find?_some hfind
    exact .inr ⟨r, List.mem_of_find?_eq_some hfind, hcontains, rfl⟩

end CaseRange

/-! ## One character -/

/-- What no lower-case form has in it: a character with a lower-case form of its own, or a
surrogate. -/
def notInLowerCase : List CaseRange :=
  ⟨0x130, 0x130, 1, 0⟩ :: ⟨0xD800, 0xDFFF, 1, 0⟩ :: lowerRanges

/-- The images of lower-casing are not lower-cased in turn. -/
theorem images_lowerRanges :
    (lowerRanges.all fun r => decide (0 ≤ r.first + r.shift) && decide (r.imageLast < 0x110000) &&
      notInLowerCase.all r.misses) = true := by
  decide +kernel

/-- Lower-casing leaves the character alone, whatever stands around it. -/
structure Settled (c : Nat) : Prop where
  ne_dotted : c ≠ 0x130
  not_changed : ∀ r ∈ lowerRanges, r.contains c = false

namespace Settled

variable {c : Nat}

theorem lower_eq (h : Settled c) : lower c = [c] := by
  have hdotted : (c == 0x130) = false := by simpa using h.ne_dotted
  rcases CaseRange.mapCodePoint_cases lowerRanges c with ⟨hmap, -⟩ | ⟨r, hr, hcontains, -⟩
  · simp [lower, hdotted, hmap]
  · rw [h.not_changed r hr] at hcontains
    cases hcontains

/-- The capital sigma is not settled. -/
theorem ne_sigma (h : Settled c) : c ≠ 0x3A3 := by
  rintro rfl
  have hchanged : ∃ r ∈ lowerRanges, r.contains 0x3A3 = true := by decide +kernel
  obtain ⟨r, hr, hcontains⟩ := hchanged
  rw [h.not_changed r hr] at hcontains
  cases hcontains

/-- The characters of the forms that stand in no table. -/
theorem of_special (h : c = 0x69 ∨ c = 0x307 ∨ c = 0x3C2) : Settled c := by
  rcases h with rfl | rfl | rfl <;> exact ⟨by decide, by decide +kernel⟩

end Settled

/-- What lower-casing leaves of a character: it alone, or characters that are no surrogates. -/
inductive LowerForm (c : Nat) : List Nat → Prop
  | same (hsettled : Settled c) : LowerForm c [c]
  | image (m : Nat) (hsettled : Settled m) (hm : m < 0x110000) (hm' : m < 0xD800 ∨ 0xDFFF < m) :
      LowerForm c [m]
  | dotted : LowerForm c [0x69, 0x307]

/-- What is left of a character is something, in the range of code points. -/
theorem LowerForm.ne_nil {c : Nat} {here : List Nat} (h : LowerForm c here) : here ≠ [] := by
  cases h <;> simp

theorem LowerForm.lt {c : Nat} {here : List Nat} (h : LowerForm c here) (hc : c < 0x110000) :
    ∀ m ∈ here, m < 0x110000 := by
  cases h with
  | same => simpa using hc
  | image m _ hm => simpa using hm
  | dotted => simp

theorem lower_lowerForm (c : Nat) : LowerForm c (lower c) := by
  unfold lower
  by_cases hdotted : c = 0x130
  · rw [if_pos (by simpa using hdotted)]
    exact .dotted
  · rw [if_neg (by simpa using hdotted)]
    rcases CaseRange.mapCodePoint_cases lowerRanges c with ⟨hmap, hnone⟩ | ⟨r, hr, hcontains, hmap⟩
    · rw [hmap]
      exact .same ⟨hdotted, hnone⟩
    · have himages := List.all_eq_true.mp images_lowerRanges r hr
      simp only [Bool.and_eq_true, decide_eq_true_eq, List.all_eq_true] at himages
      obtain ⟨⟨hshift, hlast⟩, hmisses⟩ := himages
      have hmissed : ∀ s ∈ notInLowerCase, s.contains (c + r.shift).toNat = false := fun s hs =>
        CaseRange.not_contains_image hcontains hshift (hmisses s hs)
      have hsurrogate := hmissed ⟨0xD800, 0xDFFF, 1, 0⟩ (by simp [notInLowerCase])
      have hdotted' := hmissed ⟨0x130, 0x130, 1, 0⟩ (by simp [notInLowerCase])
      rw [Bool.eq_false_iff, Ne, CaseRange.contains_iff] at hsurrogate hdotted'
      dsimp only at hsurrogate hdotted'
      rw [CaseRange.contains_iff] at hcontains
      unfold CaseRange.imageLast at hlast
      rw [hmap]
      refine .image _ ⟨by omega, fun s hs => hmissed s ?_⟩ (by omega) (by omega)
      exact List.mem_cons_of_mem _ (List.mem_cons_of_mem _ hs)

/-! ## The characters of a text -/

/-- Settled characters are left alone. -/
theorem lowerFrom_of_settled {cs : List Nat} (h : ∀ c ∈ cs, Settled c) (inWord : Bool) :
    lowerFrom inWord cs = cs := by
  induction cs generalizing inWord with
  | nil => rfl
  | cons c cs ih =>
    obtain ⟨hc, hcs⟩ := List.forall_mem_cons.mp h
    have hsigma : (c == 0x3A3) = false := by simpa using hc.ne_sigma
    simp only [lowerFrom, hsigma, Bool.false_and, Bool.false_eq_true, if_false, hc.lower_eq,
      ih hcs, List.singleton_append]

/-- What is left of a character comes before what is left of the others: its lower-case form, or the
final sigma. -/
theorem lowerFrom_cons (inWord : Bool) (c : Nat) (cs : List Nat) :
    ∃ here, (here = lower c ∨ here = [0x3C2]) ∧ ∃ inWord',
      lowerFrom inWord (c :: cs) = here ++ lowerFrom inWord' cs := by
  refine ⟨if c == 0x3A3 && inWord && !leadsToCased cs then [0x3C2] else lower c, ?_, _, rfl⟩
  split
  · exact .inr rfl
  · exact .inl rfl

theorem lowerForm_of_lowerFrom {c : Nat} {here : List Nat} (h : here = lower c ∨ here = [0x3C2]) :
    LowerForm c here := by
  rcases h with rfl | rfl
  · exact lower_lowerForm c
  · exact .image 0x3C2 (.of_special (by simp)) (by omega) (by omega)

/-- What lower-casing leaves is settled. -/
theorem settled_lowerFrom (inWord : Bool) (cs : List Nat) :
    ∀ m ∈ lowerFrom inWord cs, Settled m := by
  induction cs generalizing inWord with
  | nil => simp [lowerFrom]
  | cons c cs ih =>
    obtain ⟨here, hhere, inWord', heq⟩ := lowerFrom_cons inWord c cs
    rw [heq]
    intro m hm
    rcases List.mem_append.mp hm with hfirst | hrest
    · cases lowerForm_of_lowerFrom hhere with
      | same hsettled => exact List.mem_singleton.mp hfirst ▸ hsettled
      | image m' hsettled => exact List.mem_singleton.mp hfirst ▸ hsettled
      | dotted =>
        simp only [List.mem_cons, List.not_mem_nil, or_false] at hfirst
        exact .of_special (hfirst.imp_right Or.inl)
    · exact ih inWord' m hrest

/-- The first character that is left of some is the first of them, or no surrogate. -/
theorem head?_lowerFrom {inWord : Bool} {c : Nat} {cs : List Nat} {m : Nat}
    (h : m ∈ (lowerFrom inWord (c :: cs)).head?) : m = c ∨ m < 0xD800 ∨ 0xDFFF < m := by
  obtain ⟨here, hhere, inWord', heq⟩ := lowerFrom_cons inWord c cs
  rw [heq] at h
  cases lowerForm_of_lowerFrom hhere with
  | same => exact .inl (Option.some.inj h).symm
  | image m' _ _ hm' =>
    obtain rfl : m' = m := Option.some.inj h
    exact .inr hm'
  | dotted =>
    obtain rfl : 0x69 = m := Option.some.inj h
    exact .inr (by omega)

/-- Lower-casing brings no halves of a surrogate pair together. -/
theorem separate_lowerFrom (inWord : Bool) {cs : List Nat} (h : Text.Separate cs) :
    Text.Separate (lowerFrom inWord cs) := by
  induction cs generalizing inWord with
  | nil => trivial
  | cons c cs ih =>
    obtain ⟨hc, hhead, hcs⟩ := h
    obtain ⟨here, hhere, inWord', heq⟩ := lowerFrom_cons inWord c cs
    rw [heq]
    have hrest := ih inWord' hcs
    cases lowerForm_of_lowerFrom hhere with
    | same =>
      refine ⟨hc, fun m hm hpair => ?_, hrest⟩
      cases cs with
      | nil => cases hm
      | cons c' cs =>
        rcases head?_lowerFrom hm with rfl | hm'
        · exact hhead m rfl hpair
        · unfold Text.IsPair at hpair
          omega
    | image m' _ hm hm' =>
      refine ⟨hm, fun m _ hpair => ?_, hrest⟩
      unfold Text.IsPair at hpair
      omega
    | dotted =>
      refine ⟨by omega, fun m _ hpair => ?_, by omega, fun m _ hpair => ?_, hrest⟩
      all_goals
        unfold Text.IsPair at hpair
        omega

end Unicode

namespace Text

/-- **A text in lower case is its own lower-case form.** -/
@[simp] theorem toLower_toLower (t : Text) : toLower (toLower t) = toLower t := by
  unfold toLower
  rw [codePoints_ofCodePoints (Unicode.separate_lowerFrom false (separate_codePoints t)),
    Unicode.lowerFrom_of_settled (Unicode.settled_lowerFrom false _)]

theorem mem_codePoints_of_digits {t : Text} (h : ∀ u ∈ t, u.isDigit = true) :
    ∀ c ∈ codePoints t, 48 ≤ c ∧ c ≤ 57 := by
  fun_induction codePoints t with
  | case1 => simp
  | case2 u => simpa [CodeUnit.isDigit_iff] using h
  | case3 u v rest hpair ih =>
    have hu := CodeUnit.isDigit_iff.mp (h u List.mem_cons_self)
    have hhigh := (isPair_toNat_iff u v).mpr hpair
    unfold IsPair at hhigh
    omega
  | case4 u v rest hpair ih =>
    obtain ⟨hu, hrest⟩ := List.forall_mem_cons.mp h
    exact List.forall_mem_cons.mpr ⟨CodeUnit.isDigit_iff.mp hu, ih hrest⟩

/-- Digits have no case. -/
theorem toLower_of_digits {t : Text} (h : ∀ u ∈ t, u.isDigit = true) : toLower t = t := by
  have hdigits : ∀ k < 10, ∀ r ∈ Unicode.lowerRanges, r.contains (48 + k) = false := by
    decide +kernel
  have hsettled : ∀ c ∈ codePoints t, Unicode.Settled c := by
    intro c hc
    obtain ⟨hlow, hhigh⟩ := mem_codePoints_of_digits h c hc
    refine ⟨by omega, ?_⟩
    have hrange := hdigits (c - 48) (by omega)
    rwa [show 48 + (c - 48) = c by omega] at hrange
  rw [toLower, Unicode.lowerFrom_of_settled hsettled, ofCodePoints_codePoints]

end Text

/-! ## The letter case -/

/-- Without a capital sigma, the letters around a character do not count. -/
theorem Unicode.lowerFrom_of_sigma_not_mem {cs : List Nat} (h : 0x3A3 ∉ cs) (inWord : Bool) :
    lowerFrom inWord cs = cs.flatMap lower := by
  induction cs generalizing inWord with
  | nil => rfl
  | cons c cs ih =>
    obtain ⟨hc, hcs⟩ := List.ne_and_not_mem_of_not_mem_cons h
    have hsigma : (c == 0x3A3) = false := by simpa using Ne.symm hc
    simp only [lowerFrom, hsigma, Bool.false_and, Bool.false_eq_true, if_false, ih hcs,
      List.flatMap_cons]

namespace Text

/-- Texts that are the same character by character, but for the letter case. The capital sigma is
in neither: its lower-case form depends on where it stands. -/
structure SameButForCase (s t : Text) : Prop where
  lower_eq : s.codePoints.map Unicode.lower = t.codePoints.map Unicode.lower
  sigma_not_mem_left : 0x3A3 ∉ s.codePoints
  sigma_not_mem_right : 0x3A3 ∉ t.codePoints

/-- The letter case is lost in lower-casing. -/
theorem SameButForCase.toLower_eq {s t : Text} (h : SameButForCase s t) :
    toLower s = toLower t := by
  unfold toLower
  rw [Unicode.lowerFrom_of_sigma_not_mem h.sigma_not_mem_left,
    Unicode.lowerFrom_of_sigma_not_mem h.sigma_not_mem_right, List.flatMap_def, List.flatMap_def,
    h.lower_eq]

end Text

end FieldValidation
