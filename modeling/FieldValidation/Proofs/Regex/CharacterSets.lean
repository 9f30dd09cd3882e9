import FieldValidation.Regex.CharacterSet

/-!
# What sets of characters hold

A set that is made of ranges holds what stands in one of them, whatever their order and however they
overlap: they are put in ascending order, and those that meet are joined. So the ranges of a set
are apart, and its complement, which is made of the gaps between them, holds all other characters.

## Main definitions

* `CharacterSet.IsApart`: ranges in ascending order, apart from one another

## Main results

* `CharacterSet.has_ofRanges`: the set of ranges
* `CharacterSet.has_complement`: the complement of a set of ranges
-/

namespace FieldValidation

namespace CharacterSet

/-- Ranges in ascending order, apart from one another. -/
def IsApart : CharacterSet → Prop
  | [] => True
  | (first, last) :: rest => first ≤ last ∧ (∀ r ∈ rest.head?, last + 1 < r.1) ∧ IsApart rest

/-- Ranges in the order of their first characters. -/
def IsAscending (ranges : List (Nat × Nat)) : Prop := ranges.Pairwise fun a b => a.1 ≤ b.1

variable {s : CharacterSet} {ranges : List (Nat × Nat)} {first last c : Nat}

theorem has_nil (c : Nat) : has [] c = false := rfl

theorem has_cons_iff :
    has ((first, last) :: s) c = true ↔ (first ≤ c ∧ c ≤ last) ∨ s.has c = true := by
  simp [has]

theorem has_cons_eq_false_iff :
    has ((first, last) :: s) c = false ↔ ¬ (first ≤ c ∧ c ≤ last) ∧ s.has c = false := by
  rw [← Bool.not_eq_true, has_cons_iff, not_or, Bool.not_eq_true]

theorem has_append_iff {t : CharacterSet} :
    has (s ++ t) c = true ↔ s.has c = true ∨ t.has c = true := by
  simp [has]

/-! ## Joining ranges -/

/-- Joining ranges that meet loses no character and gains none. -/
theorem has_joinFrom_iff (h : IsAscending ((first, last) :: ranges)) :
    has (joinFrom first last ranges) c = true ↔ has ((first, last) :: ranges) c = true := by
  induction ranges generalizing first last with
  | nil => rfl
  | cons range rest ih =>
    obtain ⟨f, l⟩ := range
    obtain ⟨hfirst, hrest⟩ := List.pairwise_cons.mp h
    have hle : first ≤ f := hfirst (f, l) (List.mem_cons_self ..)
    unfold joinFrom
    split
    · next hmeets =>
      have hjoined : IsAscending ((first, max last l) :: rest) :=
        List.pairwise_cons.mpr ⟨fun r hr => hfirst r (List.mem_cons_of_mem _ hr), hrest.tail⟩
      rw [ih hjoined, has_cons_iff, has_cons_iff, has_cons_iff, ← or_assoc]
      apply or_congr_left
      omega
    · rw [has_cons_iff, ih hrest, has_cons_iff, has_cons_iff, has_cons_iff]

theorem head?_joinFrom (first last : Nat) (ranges : List (Nat × Nat)) :
    ∃ l, (joinFrom first last ranges).head? = some (first, l) := by
  induction ranges generalizing last with
  | nil => exact ⟨last, rfl⟩
  | cons range rest ih =>
    obtain ⟨f, l⟩ := range
    unfold joinFrom
    split
    · exact ih _
    · exact ⟨last, rfl⟩

/-- Ranges that are left when those that meet are joined are apart. -/
theorem isApart_joinFrom (hle : first ≤ last) (h : ∀ r ∈ ranges, r.1 ≤ r.2) :
    IsApart (joinFrom first last ranges) := by
  induction ranges generalizing first last with
  | nil => exact ⟨hle, by simp, trivial⟩
  | cons range rest ih =>
    obtain ⟨f, l⟩ := range
    obtain ⟨hrange, hrest⟩ := List.forall_mem_cons.mp h
    unfold joinFrom
    split
    · exact ih (by omega) hrest
    · next hapart =>
      refine ⟨hle, ?_, ih hrange hrest⟩
      intro r hr
      obtain ⟨l', hl'⟩ := head?_joinFrom f l rest
      obtain rfl := Option.some.inj (hl'.symm.trans hr)
      show last + 1 < f
      omega

/-! ## The set of ranges -/

/-- The order that ranges are put in. -/
def comesBefore (a b : Nat × Nat) : Bool := a.1 < b.1 || (a.1 == b.1 && a.2 ≤ b.2)

theorem isAscending_mergeSort (ranges : List (Nat × Nat)) :
    IsAscending (ranges.mergeSort comesBefore) := by
  have hsorted : (ranges.mergeSort comesBefore).Pairwise fun a b => comesBefore a b = true := by
    apply List.pairwise_mergeSort <;> simp only [comesBefore, Bool.or_eq_true, Bool.and_eq_true,
      decide_eq_true_eq, beq_iff_eq] <;> omega
  refine hsorted.imp fun {a b} hab => ?_
  simp only [comesBefore, Bool.or_eq_true, Bool.and_eq_true, decide_eq_true_eq, beq_iff_eq] at hab
  omega

/-- The set of ranges holds the characters that stand in one of them. -/
theorem has_ofRanges (ranges : List (Nat × Nat)) (c : Nat) :
    (ofRanges ranges).has c = has ranges c := by
  have hperm : (ranges.mergeSort comesBefore).Perm ranges := List.mergeSort_perm ..
  have hascending := isAscending_mergeSort ranges
  have hany : has (ranges.mergeSort comesBefore) c = has ranges c := hperm.any_eq
  rw [Bool.eq_iff_iff, ← hany]
  unfold ofRanges
  change has (join (ranges.mergeSort comesBefore)) c = true ↔ _
  cases hsorted : ranges.mergeSort comesBefore with
  | nil => rfl
  | cons range rest =>
    rw [hsorted] at hascending
    exact has_joinFrom_iff hascending

/-- The ranges of a set are apart. -/
theorem isApart_ofRanges (h : ∀ r ∈ ranges, r.1 ≤ r.2) : IsApart (ofRanges ranges) := by
  have hsorted : ∀ r ∈ ranges.mergeSort comesBefore, r.1 ≤ r.2 := fun r hr =>
    h r ((List.mergeSort_perm ..).subset hr)
  change IsApart (join (ranges.mergeSort comesBefore))
  generalize ranges.mergeSort comesBefore = sorted at hsorted
  cases sorted with
  | nil => trivial
  | cons range rest =>
    obtain ⟨hrange, hrest⟩ := List.forall_mem_cons.mp hsorted
    exact isApart_joinFrom hrange hrest

/-! ## The complement -/

theorem not_has_of_lt (h : IsApart s) (hlt : ∀ r ∈ s.head?, c < r.1) : s.has c = false := by
  induction s with
  | nil => rfl
  | cons range rest ih =>
    obtain ⟨f, l⟩ := range
    obtain ⟨hle, hnext, hrest⟩ := h
    have hc : c < f := hlt (f, l) rfl
    have hnone := ih hrest fun r hr => by
      have hr' := hnext r hr
      omega
    rw [has_cons_eq_false_iff]
    exact ⟨by omega, hnone⟩

/-- The gaps between ranges that are apart hold the characters that stand in none of them. -/
theorem has_gapsFrom_iff (h : IsApart s) (hfirst : ∀ r ∈ s.head?, first ≤ r.1)
    (hc : c ≤ maxCodePoint) :
    (gapsFrom first s).has c = true ↔ first ≤ c ∧ s.has c = false := by
  induction s generalizing first with
  | nil =>
    unfold gapsFrom
    split
    · simp [has, hc]
    · simp only [has_nil, Bool.false_eq_true, false_iff]
      omega
  | cons range rest ih =>
    obtain ⟨f, l⟩ := range
    obtain ⟨hle, hnext, hrest⟩ := h
    have hf : first ≤ f := hfirst (f, l) rfl
    have hgaps : (gapsFrom (l + 1) rest).has c = true ↔ l + 1 ≤ c ∧ has rest c = false :=
      ih hrest fun r hr => Nat.le_of_lt (hnext r hr)
    have hbelow : c < f → has rest c = false := fun hlt =>
      not_has_of_lt hrest fun r hr => by
        have hr' := hnext r hr
        omega
    rw [has_cons_eq_false_iff]
    unfold gapsFrom
    split
    · rw [has_cons_iff, hgaps]
      constructor
      · rintro (hgap | ⟨habove, hnone⟩)
        · exact ⟨hgap.1, by omega, hbelow (by omega)⟩
        · exact ⟨by omega, by omega, hnone⟩
      · rintro ⟨hge, hout, hnone⟩
        by_cases hlt : c < f
        · exact .inl ⟨hge, by omega⟩
        · exact .inr ⟨by omega, hnone⟩
    · rw [hgaps]
      constructor
      · rintro ⟨habove, hnone⟩
        exact ⟨by omega, by omega, hnone⟩
      · rintro ⟨hge, hout, hnone⟩
        exact ⟨by omega, hnone⟩

/-- The complement of a set holds the characters that the set does not. -/
theorem has_complement (h : IsApart s) (hc : c ≤ maxCodePoint) :
    s.complement.has c = !s.has c := by
  rw [Bool.eq_iff_iff]
  have hgaps : (gapsFrom 0 s).has c = true ↔ 0 ≤ c ∧ s.has c = false :=
    has_gapsFrom_iff h (fun r _ => Nat.zero_le r.1) hc
  rw [complement, hgaps]
  simp

end CharacterSet

end FieldValidation
