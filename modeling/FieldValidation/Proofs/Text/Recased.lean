import FieldValidation.Proofs.Text.Blank
import FieldValidation.Proofs.Text.Lower

/-!
# What lower-casing keeps in its place

The blanks and the colon are the lower-case form of no other character, so lower-casing a text puts
none of them where there was none: a text without a colon has none afterwards, and a trimmed text
stays trimmed. Nor does any character vanish.

## Main definitions

* `Unicode.isMark`: the code points of the blanks and the colon
* `Text.Recased`: texts that are alike piece by piece, but for the letter case

## Main results

* `Text.recased_toLower`: a text and its lower-case form
* `Text.toLower_eq_nil_iff`, `Text.colon_mem_of_mem_toLower`, `Text.trim_toLower`: what they share
-/

namespace FieldValidation

namespace Unicode

/-! ## Characters -/

/-- The blanks and the colon. -/
def markRanges : List CaseRange :=
  [⟨0x09, 0x0D, 1, 0⟩, ⟨0x20, 0x20, 1, 0⟩, ⟨0x3A, 0x3A, 1, 0⟩, ⟨0xA0, 0xA0, 1, 0⟩,
    ⟨0x1680, 0x1680, 1, 0⟩, ⟨0x2000, 0x200A, 1, 0⟩, ⟨0x2028, 0x2029, 1, 0⟩, ⟨0x202F, 0x202F, 1, 0⟩,
    ⟨0x205F, 0x205F, 1, 0⟩, ⟨0x3000, 0x3000, 1, 0⟩, ⟨0xFEFF, 0xFEFF, 1, 0⟩]

/-- Whether a character is a blank or the colon. -/
def isMark (c : Nat) : Bool := markRanges.any (·.contains c)

/-- No mark is a surrogate. -/
theorem not_surrogate_of_isMark {c : Nat} (h : isMark c = true) : c < 0xD800 ∨ 0xDFFF < c := by
  have hranges : ∀ r ∈ markRanges, r.last < 0xD800 ∨ 0xDFFF < r.first := by decide
  obtain ⟨r, hr, hcontains⟩ := List.any_eq_true.mp h
  obtain ⟨hfirst, hlast, -⟩ := (CaseRange.contains_iff r c).mp hcontains
  have hrange := hranges r hr
  omega

theorem images_miss_marks :
    (lowerRanges.all fun r =>
      decide (0 ≤ r.first + r.shift) && markRanges.all r.misses) = true := by
  decide +kernel

/-- What lower-casing leaves of a character has no mark in it but the character itself. -/
theorem eq_of_isMark_of_mem_lower {c m : Nat} (hm : m ∈ lower c) (hmark : isMark m = true) :
    m = c := by
  unfold lower at hm
  split at hm
  · have hnone : ∀ m ∈ [0x69, 0x307], isMark m = false := by decide
    rw [hnone m hm] at hmark
    cases hmark
  · obtain rfl := List.mem_singleton.mp hm
    rcases CaseRange.mapCodePoint_cases lowerRanges c with ⟨hmap, -⟩ | ⟨r, hr, hcontains, hmap⟩
    · exact hmap
    · have himages := List.all_eq_true.mp images_miss_marks r hr
      simp only [Bool.and_eq_true, decide_eq_true_eq, List.all_eq_true] at himages
      obtain ⟨s, hs, hmember⟩ := List.any_eq_true.mp hmark
      rw [hmap, CaseRange.not_contains_image hcontains himages.1 (himages.2 s hs)] at hmember
      cases hmember

/-- Nor has what is left of it among others. -/
theorem eq_of_isMark_of_mem_lowerFrom {c m : Nat} {here : List Nat}
    (h : here = lower c ∨ here = [0x3C2]) (hm : m ∈ here) (hmark : isMark m = true) : m = c := by
  rcases h with rfl | rfl
  · exact eq_of_isMark_of_mem_lower hm hmark
  · obtain rfl := List.mem_singleton.mp hm
    cases hmark

end Unicode

/-! ## Units -/

namespace CodeUnit

/-- Whether a unit is a blank or the colon. -/
def isMark (u : CodeUnit) : Bool := Unicode.isMark u.toNat

theorem isMark_colon : isMark (unit ':') = true := by decide

theorem isMark_of_isBlank {u : CodeUnit} (h : u.isBlank = true) : u.isMark = true := by
  simp only [isBlank, Bool.or_eq_true, Bool.and_eq_true, decide_eq_true_eq, beq_iff_eq,
    UInt16.le_iff_toNat_le, ← UInt16.toNat_inj, UInt16.reduceToNat] at h
  simp only [isMark, Unicode.isMark, Unicode.markRanges, List.any_cons, List.any_nil, Bool.or_false,
    Bool.or_eq_true, Unicode.CaseRange.contains_iff]
  omega

end CodeUnit

namespace Text

variable {t t' : Text} {u : CodeUnit}

/-- Texts that are alike piece by piece, but for the letter case: a mark in a piece of the second is
all there is of the first there. -/
inductive Recased : Text → Text → Prop
  | nil : Recased [] []
  | cons {piece piece' rest rest' : Text} (hpiece : piece ≠ []) (hpiece' : piece' ≠ [])
      (hmarks : ∀ u ∈ piece', u.isMark = true → piece = [u]) (hrest : Recased rest rest') :
      Recased (piece ++ rest) (piece' ++ rest')

namespace Recased

theorem eq_nil_iff (h : Recased t t') : t' = [] ↔ t = [] := by
  cases h with
  | nil => exact Iff.rfl
  | cons hpiece hpiece' => simp [hpiece, hpiece']

theorem mem (h : Recased t t') (hmark : u.isMark = true) (hu : u ∈ t') : u ∈ t := by
  induction h with
  | nil => exact hu
  | cons _ _ hmarks _ ih =>
    rcases List.mem_append.mp hu with hpiece | hrest
    · rw [hmarks u hpiece hmark]
      exact List.mem_cons_self
    · exact List.mem_append_right _ (ih hrest)

theorem head? (h : Recased t t') (hmark : u.isMark = true) (hu : u ∈ t'.head?) :
    u ∈ t.head? := by
  cases h with
  | nil => exact hu
  | @cons piece piece' _ _ _ hpiece' hmarks =>
    rw [List.head?_append_of_ne_nil _ hpiece'] at hu
    rw [hmarks u (List.mem_of_mem_head? hu) hmark]
    rfl

theorem getLast? (h : Recased t t') (hmark : u.isMark = true) (hu : u ∈ t'.getLast?) :
    u ∈ t.getLast? := by
  induction h with
  | nil => exact hu
  | @cons piece piece' rest rest' _ _ hmarks hrest ih =>
    by_cases hnil : rest' = []
    · rw [hnil, List.append_nil] at hu
      rw [hrest.eq_nil_iff.mp hnil, List.append_nil, hmarks u (List.mem_of_getLast? hu) hmark]
      rfl
    · rw [List.getLast?_append_of_ne_nil _ hnil] at hu
      rw [List.getLast?_append_of_ne_nil _ (mt hrest.eq_nil_iff.mpr hnil)]
      exact ih hu

end Recased

/-! ## Lower case -/

/-- A unit that is no surrogate is a code point by itself. -/
theorem ofCodePoint_of_isMark {n : Nat} (hn : n < 0x110000) (hu : u ∈ ofCodePoint n)
    (hmark : u.isMark = true) : u.toNat = n ∧ ofCodePoint n = [u] := by
  have hsurrogate := Unicode.not_surrogate_of_isMark hmark
  unfold ofCodePoint at hu ⊢
  split at hu
  · next hsmall =>
    obtain rfl := List.mem_singleton.mp hu
    rw [if_pos hsmall]
    exact ⟨by simpa using hsmall, rfl⟩
  · simp only [List.mem_cons, List.not_mem_nil, or_false] at hu
    rcases hu with rfl | rfl <;>
    · rw [Nat.toUInt16, UInt16.toNat_ofNat'] at hsurrogate
      omega

theorem recased_lowerFrom {cs : List Nat} (h : ∀ c ∈ cs, c < 0x110000) (inWord : Bool) :
    Recased (ofCodePoints cs) (ofCodePoints (Unicode.lowerFrom inWord cs)) := by
  induction cs generalizing inWord with
  | nil => exact .nil
  | cons c cs ih =>
    obtain ⟨hc, hcs⟩ := List.forall_mem_cons.mp h
    obtain ⟨here, hhere, inWord', heq⟩ := Unicode.lowerFrom_cons inWord c cs
    have hform := Unicode.lowerForm_of_lowerFrom hhere
    rw [heq, ofCodePoints_cons, ofCodePoints_append]
    refine .cons (ofCodePoint_ne_nil c) ?_ ?_ (ih hcs inWord')
    · obtain ⟨m, rest, rfl⟩ := List.exists_cons_of_ne_nil hform.ne_nil
      rw [ofCodePoints_cons]
      simp [ofCodePoint_ne_nil]
    · intro u hu hmark
      obtain ⟨m, hm, hunit⟩ := List.mem_flatMap.mp hu
      obtain ⟨hvalue, hpiece⟩ := ofCodePoint_of_isMark (hform.lt hc m hm) hunit hmark
      obtain rfl : m = c := Unicode.eq_of_isMark_of_mem_lowerFrom hhere hm (hvalue ▸ hmark)
      exact hpiece

/-- **A text and its lower-case form are alike piece by piece.** -/
theorem recased_toLower (t : Text) : Recased t (toLower t) := by
  have hrecased := recased_lowerFrom (separate_codePoints t).lt false
  rwa [ofCodePoints_codePoints] at hrecased

/-- Only the empty text is empty in lower case. -/
theorem toLower_eq_nil_iff : toLower t = [] ↔ t = [] := (recased_toLower t).eq_nil_iff

/-- A colon in lower case stood there before. -/
theorem colon_mem_of_mem_toLower (h : unit ':' ∈ toLower t) : unit ':' ∈ t :=
  (recased_toLower t).mem CodeUnit.isMark_colon h

/-- A trimmed text stays trimmed in lower case. -/
theorem trim_toLower (h : trim t = t) : trim (toLower t) = toLower t := by
  rw [trim_eq_self_iff] at h ⊢
  constructor
  · intro u hu
    by_contra hblank
    rw [Bool.not_eq_false] at hblank
    have hhead := (recased_toLower t).head? (CodeUnit.isMark_of_isBlank hblank) hu
    rw [h.1 u hhead] at hblank
    cases hblank
  · intro u hu
    by_contra hblank
    rw [Bool.not_eq_false] at hblank
    have hlast := (recased_toLower t).getLast? (CodeUnit.isMark_of_isBlank hblank) hu
    rw [h.2 u hlast] at hblank
    cases hblank

end Text

end FieldValidation
