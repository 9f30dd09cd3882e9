import Mathlib.Data.List.DropRight
import FieldValidation.Proofs.Text.Digits
import FieldValidation.Text.Blank

/-!
# Blanks around a text

Trimming takes off the blanks at either end. A text is trimmed where no blank stands at its ends:
trimming leaves such texts alone, makes no others, and gives one back however many blanks are put
around it.

## Main definitions

* `Text.IsBlank`: a text is nothing but blanks

## Main results

* `Text.trim_eq_self_iff`: a text that trimming leaves alone has no blank at either end
* `Text.trim_trim`: trimming twice is trimming once
* `Text.exists_blanks`: what is taken off is blank
* `Text.trim_around`: blanks around a trimmed text are taken off
* `Text.trimEnd_append_cons`, `Text.trim_append_cons`: nothing is taken off beyond a unit that is
  not blank
* `Text.trim_eq_nil_iff`: what is trimmed to nothing is blank
-/

namespace FieldValidation

/-- No digit is a blank. -/
theorem CodeUnit.isBlank_of_isDigit {u : CodeUnit} (h : u.isDigit = true) : u.isBlank = false := by
  have hnone : ∀ n < 10, (Text.digit n).isBlank = false := by decide
  rw [← digit_digitValue h]
  exact hnone _ (digitValue_lt h)

namespace Text

/-- A text is nothing but blanks. -/
def IsBlank (t : Text) : Prop := ∀ u ∈ t, u.isBlank = true

instance (t : Text) : Decidable t.IsBlank :=
  decidable_of_iff (t.all CodeUnit.isBlank = true) List.all_eq_true

variable {before t after : Text}

/-! ## Trimmed texts -/

theorem trimEnd_eq_rdropWhile (t : Text) : trimEnd t = t.rdropWhile CodeUnit.isBlank := rfl

theorem trimStart_trimStart (t : Text) : trimStart (trimStart t) = trimStart t :=
  List.dropWhile_idempotent CodeUnit.isBlank t

theorem trimStart_eq_self_iff : trimStart t = t ↔ ∀ u ∈ t.head?, u.isBlank = false := by
  cases t with
  | nil => simp [trimStart]
  | cons u rest =>
    rw [trimStart, List.dropWhile_eq_self_iff]
    simp

theorem trimEnd_eq_self_iff : trimEnd t = t ↔ ∀ u ∈ t.getLast?, u.isBlank = false := by
  rw [trimEnd, List.reverse_eq_iff, trimStart_eq_self_iff, List.head?_reverse]

/-- A text that trimming leaves alone has no blank at either end. -/
theorem trim_eq_self_iff :
    trim t = t ↔ (∀ u ∈ t.head?, u.isBlank = false) ∧ ∀ u ∈ t.getLast?, u.isBlank = false := by
  rw [← trimStart_eq_self_iff, ← trimEnd_eq_self_iff, trim]
  constructor
  · intro h
    have hstart : trimStart t = t := by
      apply (List.dropWhile_suffix CodeUnit.isBlank).eq_of_length_le
      calc t.length = (trimEnd (trimStart t)).length := by rw [h]
        _ ≤ (trimStart t).length := (List.rdropWhile_prefix CodeUnit.isBlank _).length_le
    exact ⟨hstart, by rwa [hstart] at h⟩
  · rintro ⟨hstart, hend⟩
    rw [hstart, hend]

/-- Trimming twice is trimming once. -/
theorem trim_trim (t : Text) : trim (trim t) = trim t := by
  rw [trim_eq_self_iff]
  constructor
  · intro u hu
    obtain ⟨rest, hrest⟩ : trim t <+: trimStart t := List.rdropWhile_prefix CodeUnit.isBlank _
    refine trimStart_eq_self_iff.mp (trimStart_trimStart t) u ?_
    rw [← hrest, List.head?_append, Option.mem_def.mp hu]
    rfl
  · exact trimEnd_eq_self_iff.mp (List.rdropWhile_idempotent CodeUnit.isBlank _)

theorem trim_of_unblank (h : ∀ u ∈ t, u.isBlank = false) : trim t = t := by
  rw [trim_eq_self_iff]
  exact ⟨fun u hu => h u (List.mem_of_mem_head? hu), fun u hu => h u (List.mem_of_getLast? hu)⟩

theorem mem_of_mem_trim {u : CodeUnit} (h : u ∈ trim t) : u ∈ t :=
  (List.dropWhile_sublist _).subset ((List.rdropWhile_prefix CodeUnit.isBlank _).subset h)

/-- What is trimmed to nothing is blank. -/
theorem trim_eq_nil_iff : trim t = [] ↔ t.IsBlank := by
  have hstart : trimStart t = [] ↔ t.IsBlank := List.dropWhile_eq_nil_iff
  rw [← hstart, trim, trimEnd_eq_rdropWhile, List.rdropWhile_eq_nil_iff]
  constructor
  · intro h
    rw [← trimStart_trimStart]
    exact List.dropWhile_eq_nil_iff.mpr h
  · intro h
    simp [h]

/-- A text is what trimming leaves with the blanks that it takes off. -/
theorem exists_blanks (t : Text) :
    ∃ before after, IsBlank before ∧ IsBlank after ∧ t = before ++ (trim t ++ after) := by
  have hstart : t = t.takeWhile CodeUnit.isBlank ++ trimStart t :=
    List.takeWhile_append_dropWhile.symm
  refine ⟨t.takeWhile CodeUnit.isBlank,
    ((trimStart t).reverse.takeWhile CodeUnit.isBlank).reverse,
    List.all_eq_true.mp List.all_takeWhile, ?_, ?_⟩
  · intro u hu
    exact List.all_eq_true.mp List.all_takeWhile u (List.mem_reverse.mp hu)
  · rw [trim, trimEnd, trimStart, ← List.reverse_append, List.takeWhile_append_dropWhile,
      List.reverse_reverse]
    exact hstart

/-! ## Blanks put around a text -/

theorem trimStart_append (h : before.IsBlank) (t : Text) :
    trimStart (before ++ t) = trimStart t :=
  List.dropWhile_append_of_pos h

theorem trimEnd_append (h : after.IsBlank) (t : Text) :
    trimEnd (t ++ after) = trimEnd t := by
  rw [trimEnd, List.reverse_append, trimStart_append fun u hu => h u (List.mem_reverse.mp hu)]
  rfl

/-- Blanks around a trimmed text are taken off. -/
theorem trim_around (hbefore : before.IsBlank) (h : trim t = t)
    (hafter : after.IsBlank) : trim (before ++ (t ++ after)) = t := by
  obtain ⟨hhead, hlast⟩ := trim_eq_self_iff.mp h
  rw [trim, trimStart_append hbefore]
  cases t with
  | nil => exact congrArg trimEnd (List.dropWhile_eq_nil_iff.mpr hafter)
  | cons u rest =>
    have hstart : trimStart ((u :: rest) ++ after) = (u :: rest) ++ after :=
      trimStart_eq_self_iff.mpr (by simpa using hhead)
    rw [hstart, trimEnd_append hafter, trimEnd_eq_self_iff.mpr hlast]

/-- At the end nothing is taken off beyond a unit that is not blank. -/
theorem trimEnd_append_cons {u : CodeUnit} (hu : u.isBlank = false) (s t : Text) :
    trimEnd (s ++ u :: t) = s ++ u :: trimEnd t := by
  have hstart : trimStart (t.reverse ++ u :: s.reverse) =
      trimStart t.reverse ++ u :: s.reverse := by
    unfold trimStart
    rw [List.dropWhile_append, List.dropWhile_cons_of_neg (by simp [hu])]
    split
    · next hempty => rw [List.isEmpty_iff.mp hempty, List.nil_append]
    · rfl
  have hreverse : (s ++ u :: t).reverse = t.reverse ++ u :: s.reverse := by simp
  rw [trimEnd, hreverse, hstart, trimEnd]
  simp

theorem trimEnd_cons {u : CodeUnit} (hu : u.isBlank = false) (t : Text) :
    trimEnd (u :: t) = u :: trimEnd t :=
  trimEnd_append_cons hu [] t

/-- At the start nothing is taken off beyond a unit that is not blank. -/
theorem trim_append_cons (hbefore : before.IsBlank) {u : CodeUnit} (hu : u.isBlank = false)
    (t : Text) : trim (before ++ u :: t) = u :: trimEnd t := by
  rw [trim, trimStart_append hbefore, trimStart_eq_self_iff.mpr (by simpa using hu),
    trimEnd_cons hu]

/-- Taking off the blanks at the end first makes no difference. -/
theorem trim_trimEnd (t : Text) : trim (trimEnd t) = trim t := by
  obtain ⟨before, after, hbefore, hafter, ht⟩ := exists_blanks t
  cases htrim : trim t with
  | nil =>
    have hblank := trim_eq_nil_iff.mp htrim
    refine trim_eq_nil_iff.mpr fun u hu => hblank u ?_
    exact (List.rdropWhile_prefix CodeUnit.isBlank _).subset hu
  | cons u rest =>
    obtain ⟨hhead, -⟩ := trim_eq_self_iff.mp (trim_trim t)
    have hu : u.isBlank = false := hhead u (by rw [htrim]; rfl)
    have hrest : trimEnd (u :: rest) = u :: rest := by
      rw [← htrim]
      exact trimEnd_eq_self_iff.mpr (trim_eq_self_iff.mp (trim_trim t)).2
    have hkept : trimEnd t = before ++ (u :: rest) := by
      rw [ht, htrim, ← List.append_assoc, trimEnd_append hafter, trimEnd_append_cons hu,
        ← trimEnd_cons hu, hrest]
    rw [hkept, trim_append_cons hbefore hu, ← trimEnd_cons hu, hrest]

/-- Blanks around a text without blanks are taken off. -/
theorem trim_pad (hbefore : before.IsBlank) (h : ∀ u ∈ t, u.isBlank = false)
    (hafter : after.IsBlank) : trim (before ++ (t ++ after)) = t :=
  trim_around hbefore (trim_of_unblank h) hafter

end Text

end FieldValidation
