import Mathlib.Data.List.Induction
import FieldValidation.Value.Entries

/-!
# Selections of entries

An entry put under a new key goes before the first entry that it precedes, and it precedes all that
follow. So a selection of entries none of which the new one precedes gets it as the last.

## Main results

* `Entries.filter_insertNew`: where a new entry stands in a selection
* `Entries.filter_key`: the entry under a key is the only one
* `Entries.Enumerated.ofPairs_eq`: entries that are put again are what they were
-/

namespace FieldValidation

namespace Entries

variable {α : Type} {entries : Entries α} {key other third : Text} {value : α}

/-- An entry under a key that is not selected is not in the selection. -/
theorem filter_insertNew_of_neg {selects : Text → Bool} (h : selects key = false) :
    (insertNew entries key value).filter (selects ·.1) = entries.filter (selects ·.1) := by
  induction entries with
  | nil => simp [insertNew, h]
  | cons entry rest ih =>
    unfold insertNew
    split
    · rw [List.filter_cons_of_neg (by simp [h])]
    · rw [List.filter_cons, List.filter_cons, ih]

/-- A new entry that precedes no selected one is the last of the selection. -/
theorem filter_insertNew {selects : Text → Bool} (hordered : Ordered (keys entries))
    (hlast : ∀ k ∈ keys entries, selects k = true → precedes key k = false)
    (h : selects key = true) :
    (insertNew entries key value).filter (selects ·.1) =
      entries.filter (selects ·.1) ++ [(key, value)] := by
  induction entries with
  | nil => simp [insertNew, h]
  | cons entry rest ih =>
    unfold insertNew
    split
    · next hbefore =>
      have hnone : (entry :: rest).filter (selects ·.1) = [] := by
        apply List.filter_eq_nil_iff.mpr
        intro e hmem hselected
        have hkey : e.1 ∈ keys (entry :: rest) := List.mem_map_of_mem hmem
        have hnot := hlast e.1 hkey hselected
        rw [hordered.precedes_all hbefore e.1 hkey] at hnot
        cases hnot
      rw [List.filter_cons, if_pos h, hnone, List.nil_append]
    · rw [List.filter_cons, List.filter_cons, ih (List.pairwise_cons.mp hordered).2
        fun k hmem => hlast k (List.mem_cons_of_mem _ hmem)]
      split <;> rfl

/-- A selection of entries one of which is replaced. -/
theorem filter_replace {selects : Text → Bool} :
    (replace entries key value).filter (selects ·.1) =
      replace (entries.filter (selects ·.1)) key value := by
  unfold replace
  rw [List.filter_map]
  congr 1
  apply List.filter_congr
  rintro ⟨k, v⟩ _
  simp only [Function.comp_apply]
  split <;> rfl

theorem replace_append (first second : Entries α) :
    replace (first ++ second) key value = replace first key value ++ replace second key value :=
  List.map_append

theorem replace_of_not_mem (h : key ∉ keys entries) : replace entries key value = entries := by
  unfold replace
  nth_rewrite 2 [← List.map_id entries]
  apply List.map_congr_left
  rintro ⟨k, v⟩ hmem
  dsimp only
  rw [if_neg]
  · rfl
  · rintro rfl
    exact h (List.mem_map_of_mem hmem)

/-- What is put under a key that is not selected is not in the selection. -/
theorem filter_put_of_neg {selects : Text → Bool} (h : selects key = false) :
    (put entries key value).filter (selects ·.1) = entries.filter (selects ·.1) := by
  unfold put
  split
  · rw [filter_replace, replace_of_not_mem]
    intro hmem
    obtain ⟨entry, hentry, rfl⟩ := List.mem_map.mp hmem
    rw [(List.mem_filter.mp hentry).2] at h
    cases h
  · exact filter_insertNew_of_neg h

/-- The entry under a key is the only one. -/
theorem filter_key (h : (keys entries).Nodup) (key : Text) :
    entries.filter (·.1 = key) = ((find? entries key).map (key, ·)).toList := by
  induction entries with
  | nil => rfl
  | cons entry rest ih =>
    obtain ⟨k, v⟩ := entry
    obtain ⟨hfirst, hrest⟩ := List.nodup_cons.mp h
    rw [List.filter_cons, find?]
    by_cases heq : k = key
    · subst heq
      have hnone : rest.filter (·.1 = k) = [] := by
        apply List.filter_eq_nil_iff.mpr
        intro e hmem hkey
        have hkeys : e.1 ∈ keys rest := List.mem_map_of_mem hmem
        rw [of_decide_eq_true hkey] at hkeys
        exact hfirst hkeys
      simp [hnone]
    · simp [heq, ih hrest]

/-! ## Entries put again -/

/-- A new entry that precedes none is the last. -/
theorem insertNew_of_last (h : ∀ k ∈ keys entries, precedes key k = false) :
    insertNew entries key value = entries ++ [(key, value)] := by
  induction entries with
  | nil => rfl
  | cons entry rest ih =>
    rw [keys_cons, List.forall_mem_cons] at h
    rw [insertNew, if_neg (Bool.eq_false_iff.mp h.1), ih h.2, List.cons_append]

/-- Entries as they are enumerated are those that are there when they are put again. -/
theorem Enumerated.ofPairs_eq (h : Enumerated entries) : ofPairs entries = entries := by
  induction entries using List.reverseRecOn with
  | nil => rfl
  | append_singleton init entry ih =>
    obtain ⟨hinit, hnew, hlast⟩ := h.of_concat
    have hput : ofPairs (init ++ [entry]) = Entries.put (ofPairs init) entry.1 entry.2 := by
      rw [ofPairs, List.foldl_append]
      rfl
    rw [hput, ih hinit, Entries.put, if_neg (mt contains_iff.mp hnew), insertNew_of_last hlast]

/-- Of entries as they are enumerated any selection is. -/
theorem Enumerated.filter (h : Enumerated entries) (selects : Text × α → Bool) :
    Enumerated (entries.filter selects) := by
  have hkeys : (keys (entries.filter selects)).Sublist (keys entries) :=
    List.filter_sublist.map _
  exact ⟨h.distinct.sublist hkeys, h.ordered.sublist hkeys⟩

end Entries

end FieldValidation
