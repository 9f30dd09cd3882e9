import FieldValidation.Text.Basic

/-!
# The pieces of a text

Cutting a text at a separator leaves at least one piece. A separator between two texts keeps their
pieces apart, and a text without one is its own only piece. Cutting only at the last separator
leaves two parts, of which the second has no separator; they are the only such parts of the text.

## Main results

* `Text.splitOn_append`: two texts with a separator between them
* `Text.splitOn_of_not_mem`: a text without separators
* `Text.splitLast?_eq_some_iff`: the parts before and after the last separator
-/

namespace FieldValidation

namespace Text

variable {sep : CodeUnit} {t : Text}

theorem splitOn_ne_nil (sep : CodeUnit) (t : Text) : splitOn sep t ≠ [] := by
  cases t with
  | nil => simp [splitOn]
  | cons u rest =>
    unfold splitOn
    split
    · simp
    · split <;> simp

/-- The pieces of two texts with a separator between them are those of one and those of the
other. -/
theorem splitOn_append (sep : CodeUnit) (p q : Text) :
    splitOn sep (p ++ sep :: q) = splitOn sep p ++ splitOn sep q := by
  induction p with
  | nil => simp [splitOn]
  | cons u rest ih =>
    rw [List.cons_append]
    by_cases hu : u = sep
    · simp only [splitOn, if_pos hu, ih, List.cons_append]
    · obtain ⟨piece, pieces, hpieces⟩ := List.exists_cons_of_ne_nil (splitOn_ne_nil sep rest)
      simp only [splitOn, if_neg hu, ih, hpieces, List.cons_append]

theorem splitOn_of_not_mem (h : sep ∉ t) : splitOn sep t = [t] := by
  induction t with
  | nil => rfl
  | cons u rest ih =>
    obtain ⟨hu, hrest⟩ := List.ne_and_not_mem_of_not_mem_cons h
    simp only [splitOn, if_neg (Ne.symm hu), ih hrest]

/-! ## The last separator -/

variable {before after : Text}

theorem splitLast?_of_not_mem (h : sep ∉ t) : splitLast? sep t = none := by
  induction t with
  | nil => rfl
  | cons u rest ih =>
    obtain ⟨hu, hrest⟩ := List.ne_and_not_mem_of_not_mem_cons h
    simp only [splitLast?, ih hrest, if_neg (Ne.symm hu)]

/-- A text is cut where the separator last stands. -/
theorem splitLast?_append (before : Text) (h : sep ∉ after) :
    splitLast? sep (before ++ sep :: after) = some (before, after) := by
  induction before with
  | nil => simp [splitLast?, splitLast?_of_not_mem h]
  | cons u rest ih => simp only [List.cons_append, splitLast?, ih]

theorem exists_last_of_mem (h : sep ∈ t) :
    ∃ before after, t = before ++ sep :: after ∧ sep ∉ after := by
  obtain ⟨after, before, hreverse, hafter⟩ := List.eq_append_cons_of_mem (List.mem_reverse.mpr h)
  refine ⟨before.reverse, after.reverse, ?_, by rwa [List.mem_reverse]⟩
  rw [← List.reverse_reverse t, hreverse]
  simp

/-- The parts before and after the last separator are those of which the second has none: cutting a
text there undoes joining two. -/
theorem splitLast?_eq_some_iff :
    splitLast? sep t = some (before, after) ↔ t = before ++ sep :: after ∧ sep ∉ after := by
  constructor
  · intro h
    by_cases hmem : sep ∈ t
    · obtain ⟨before', after', rfl, hafter⟩ := exists_last_of_mem hmem
      rw [splitLast?_append before' hafter] at h
      obtain ⟨rfl, rfl⟩ := Prod.mk.inj (Option.some.inj h)
      exact ⟨rfl, hafter⟩
    · rw [splitLast?_of_not_mem hmem] at h
      cases h
  · rintro ⟨rfl, hafter⟩
    exact splitLast?_append before hafter

/-- So a text has no more than one such pair of parts. -/
theorem append_cons_inj_of_not_mem {before' after' : Text} (h : sep ∉ after) (h' : sep ∉ after')
    (heq : before ++ sep :: after = before' ++ sep :: after') :
    before = before' ∧ after = after' := by
  have hparts := splitLast?_append before h
  rw [heq, splitLast?_append before' h'] at hparts
  obtain ⟨rfl, rfl⟩ := Prod.mk.inj (Option.some.inj hparts)
  exact ⟨rfl, rfl⟩

end Text

end FieldValidation
