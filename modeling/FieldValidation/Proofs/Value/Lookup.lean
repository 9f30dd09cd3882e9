import FieldValidation.Proofs.Text.Pieces
import FieldValidation.Value.Dataset

/-!
# What a look-up depends on

A look-up takes its first step into the dataset itself, so it depends on the dataset only through
the child under that step. The other children may come, go or change.

## Main definitions

* `FieldId.firstStep`: the first step of a look-up

## Main results

* `Entries.find?_put_of_ne`, `Entries.find?_erase_of_ne`: other keys are left alone
* `Value.lookup_congr`: datasets with the same child under the first step
* `Value.child?_setField_of_ne`, `Value.child?_deleteField_of_ne`: changing another child of a
  record
-/

namespace FieldValidation

namespace Entries

variable {α : Type} {key other : Text}

theorem find?_replace_of_ne (entries : Entries α) (value : α) (h : key ≠ other) :
    find? (replace entries key value) other = find? entries other := by
  induction entries with
  | nil => rfl
  | cons entry rest ih =>
    obtain ⟨k, v⟩ := entry
    show find? ((if k = key then (k, value) else (k, v)) :: replace rest key value) other = _
    by_cases hk : k = key
    · have hne : k ≠ other := hk ▸ h
      simp only [if_pos hk, find?, if_neg hne, ih]
    · simp only [if_neg hk, find?, ih]

theorem find?_insertNew_of_ne (entries : Entries α) (value : α) (h : key ≠ other) :
    find? (insertNew entries key value) other = find? entries other := by
  induction entries with
  | nil => simp [insertNew, find?, h]
  | cons entry rest ih =>
    obtain ⟨k, v⟩ := entry
    unfold insertNew
    split
    · simp [find?, h]
    · simp only [find?, ih]

/-- Putting a value under one key leaves what is under another. -/
theorem find?_put_of_ne (entries : Entries α) (value : α) (h : key ≠ other) :
    find? (put entries key value) other = find? entries other := by
  unfold put
  split
  · exact find?_replace_of_ne entries value h
  · exact find?_insertNew_of_ne entries value h

/-- Removing one key leaves what is under another. -/
theorem find?_erase_of_ne (entries : Entries α) (h : key ≠ other) :
    find? (erase entries key) other = find? entries other := by
  induction entries with
  | nil => rfl
  | cons entry rest ih =>
    obtain ⟨k, v⟩ := entry
    by_cases hk : k = key
    · have hne : k ≠ other := hk ▸ h
      have herase : erase ((k, v) :: rest) key = erase rest key := by simp [erase, hk]
      rw [herase, ih, find?, if_neg hne]
    · have herase : erase ((k, v) :: rest) key = (k, v) :: erase rest key := by simp [erase, hk]
      rw [herase, find?, find?, ih]

end Entries

/-- The first step of a look-up. -/
def FieldId.firstStep : FieldId → FieldId
  | .name t => .name ((Text.splitOn (unit '.') t).head?.getD [])
  | .position x => .position x

/-- A look-up takes at least one step. -/
theorem FieldId.exists_path (id : FieldId) : ∃ later, id.path = id.firstStep :: later := by
  cases id with
  | position x => exact ⟨[], rfl⟩
  | name t =>
    obtain ⟨piece, pieces, hsplit⟩ :=
      List.exists_cons_of_ne_nil (Text.splitOn_ne_nil (unit '.') t)
    exact ⟨pieces.map .name, by simp [path, firstStep, hsplit]⟩

namespace Value

variable {d₁ d₂ : Value}

/-- Datasets with the same child under the first step have the same value for the field. -/
theorem lookup_congr {id : FieldId} (h : d₁.child? id.firstStep = d₂.child? id.firstStep) :
    d₁.lookup id = d₂.lookup id := by
  obtain ⟨later, hpath⟩ := id.exists_path
  simp only [lookup, hpath, descend, h]

theorem hasField_congr {id : FieldId} (h : d₁.child? id.firstStep = d₂.child? id.firstStep) :
    d₁.hasField id = d₂.hasField id := by
  unfold hasField
  rw [lookup_congr h]

theorem child?_setField_of_ne (entries : Entries Value) {key : Text} (value : Value)
    {step : FieldId} (h : step.written ≠ key) :
    ((Value.record entries).setField (.text key) value).child? step =
      (Value.record entries).child? step :=
  Entries.find?_put_of_ne entries value h.symm

theorem child?_deleteField_of_ne (entries : Entries Value) {key : Text} {step : FieldId}
    (h : step.written ≠ key) :
    ((Value.record entries).deleteField (.text key)).child? step =
      (Value.record entries).child? step :=
  Entries.find?_erase_of_ne entries h.symm

end Value

end FieldValidation
