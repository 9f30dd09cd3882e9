import FieldValidation.Rule.Spec

/-!
# Reading rule texts

A rule text is cut at its first colon. So a name without a colon and a parameter, neither with
blanks at its ends, are read off the text that they are written as.

## Main results

* `Text.splitFirst?_of_not_mem`, `Text.splitFirst?_append`: cutting at the first separator
* `RuleSpec.parse?_written`: a rule with a parameter is read as it is written
-/

namespace FieldValidation

/-- A text without a separator is not cut. -/
theorem Text.splitFirst?_of_not_mem {sep : CodeUnit} {t : Text} (h : sep ∉ t) :
    splitFirst? sep t = none := by
  induction t with
  | nil => rfl
  | cons u rest ih =>
    have hu : u ≠ sep := fun hu => h (by simp [hu])
    rw [splitFirst?, if_neg hu, ih fun hmem => h (List.mem_cons_of_mem _ hmem)]
    rfl

/-- A text is cut where the separator first stands. -/
theorem Text.splitFirst?_append {sep : CodeUnit} {before : Text} (h : sep ∉ before)
    (after : Text) : splitFirst? sep (before ++ sep :: after) = some (before, after) := by
  induction before with
  | nil => simp [splitFirst?]
  | cons u rest ih =>
    have hu : u ≠ sep := fun hu => h (by simp [hu])
    have hrest : sep ∉ rest := fun hmem => h (List.mem_cons_of_mem _ hmem)
    rw [List.cons_append, splitFirst?, if_neg hu, ih hrest]
    rfl

/-- A text that is cut is its parts with the separator between them. -/
theorem Text.eq_of_splitFirst? {sep : CodeUnit} {t before after : Text}
    (h : splitFirst? sep t = some (before, after)) : t = before ++ sep :: after := by
  induction t generalizing before with
  | nil => cases h
  | cons u rest ih =>
    unfold splitFirst? at h
    split at h
    · next hu =>
      obtain ⟨rfl, rfl⟩ := Prod.mk.inj (Option.some.inj h)
      rw [hu, List.nil_append]
    · obtain ⟨⟨before, after⟩, hrest, hparts⟩ := Option.map_eq_some_iff.mp h
      obtain ⟨rfl, rfl⟩ := Prod.mk.inj hparts
      rw [ih hrest, List.cons_append]

/-- The rule of a text is read off its parts. -/
theorem RuleSpec.parse?_of_parts {rule name : Text} {parameter : Option Text}
    (hparts : parts rule = (name, parameter)) (hname : name ≠ []) :
    parse? rule = some ⟨Text.toLower name, parameter⟩ := by
  simp only [parse?, hparts, if_neg hname]

/-- A rule with a parameter is read as it is written, but for the letter case of its name. -/
theorem RuleSpec.parse?_written {name parameter : Text} (hsep : separator ∉ name)
    (hname : Text.trim name = name) (hname' : name ≠ [])
    (hparameter : Text.trim parameter = parameter) (hparameter' : parameter ≠ []) :
    parse? (written ⟨name, some parameter⟩) = some ⟨Text.toLower name, some parameter⟩ := by
  have hparts : parts (written ⟨name, some parameter⟩) = (name, some parameter) := by
    simp only [parts, written, Text.splitFirst?_append hsep, hname, hparameter, if_neg hparameter']
  exact parse?_of_parts hparts hname'

end FieldValidation
