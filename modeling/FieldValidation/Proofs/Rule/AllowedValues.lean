import FieldValidation.Proofs.Number.Written
import FieldValidation.Proofs.Rule.Discipline

/-!
# What an enumeration allows

The parameter of an enumeration lists texts: the pieces between the commas of a text, but for the
blanks around them, or the texts that the scalars of a list are written as. But the blanks are taken
off the scalars of a list as well, and what is empty then is left out; the value that is held
against them keeps its blanks. So an enumeration allows what its parameter lists just where the
texts among the items of a list are there and have no blanks around them.

## Main definitions

* `Value.Lists`: a parameter lists a text
* `Value.IsTidy`: the texts among the items of a list are there, without blanks around them
* `BuiltinRule.Enumerates`: an enumeration allows what its parameter lists

## Main results

* `BuiltinRule.mem_allowedValues_iff`: the texts that an enumeration allows
* `BuiltinRule.enumerates_iff_isTidy`: where they are those that its parameter lists
-/

namespace FieldValidation

open BuiltinRule (isScalar offeredValues allowedValues)

namespace Value

/-- The parameter of an enumeration lists a text. -/
def Lists : Value → Text → Prop
  | .text t, s => s ≠ [] ∧ ∃ piece ∈ Text.splitOn (unit ',') t, Text.trim piece = s
  | .list items, s => ∃ entry, some entry ∈ items ∧ isScalar entry = true ∧ entry.written = s
  | _, _ => False

/-- If a parameter is a list, the texts among its items are there and have no blanks around them. -/
def IsTidy : Value → Prop
  | .list items => ∀ t, some (.text t) ∈ items → t ≠ [] ∧ Text.trim t = t
  | _ => True

/-- A scalar that is no text is written without blanks. -/
theorem written_of_isScalar {v : Value} (h : isScalar v = true)
    (htext : ∀ t, v = .text t → t ≠ [] ∧ Text.trim t = t) :
    v.written ≠ [] ∧ Text.trim v.written = v.written := by
  cases v with
  | text t => exact htext t rfl
  | number x => exact ⟨x.written_ne_nil, Text.trim_of_unblank x.unblank_written⟩
  | bool b => cases b <;> decide
  | _ => cases h

end Value

namespace BuiltinRule

variable {thisYear : Nat} {parameter value : Value} {s : Text}

/-! ## The allowed texts -/

/-- The texts that an enumeration allows are those of the scalars that it is offered, but for the
blanks around them. -/
theorem mem_allowedValues_iff {checks : Checks} :
    s ∈ allowedValues checks parameter ↔ s ≠ [] ∧ ∃ v ∈ offeredValues checks parameter,
      isScalar v = true ∧ Text.trim v.written = s := by
  unfold allowedValues
  rw [List.mem_filter, List.mem_map, and_comm, decide_eq_true_eq]
  refine and_congr_right fun _ => exists_congr fun v => ?_
  rw [List.mem_filter, and_assoc]

theorem mem_offeredValues_list {items : List (Option Value)} :
    value ∈ offeredValues (.standard thisYear) (.list items) ↔ some value ∈ items := by
  show value ∈ items.filterMap id ↔ _
  simp

/-- What a tidy parameter lists is what an enumeration allows. -/
theorem mem_allowedValues_iff_lists (h : parameter.IsTidy) :
    s ∈ allowedValues (.standard thisYear) parameter ↔ parameter.Lists s := by
  rw [mem_allowedValues_iff]
  cases parameter with
  | text t =>
    have hoffered : offeredValues (.standard thisYear) (.text t) =
      (Text.splitOn (unit ',') t).map .text := rfl
    rw [hoffered]
    simp [Value.Lists, isScalar, Value.written, Value.written?]
  | list items =>
    constructor
    · rintro ⟨-, v, hmem, hscalar, rfl⟩
      rw [mem_offeredValues_list] at hmem
      obtain ⟨-, htrim⟩ := Value.written_of_isScalar hscalar fun t ht => h t (ht ▸ hmem)
      exact ⟨v, hmem, hscalar, htrim.symm⟩
    · rintro ⟨v, hmem, hscalar, rfl⟩
      obtain ⟨hne, htrim⟩ := Value.written_of_isScalar hscalar fun t ht => h t (ht ▸ hmem)
      exact ⟨hne, v, mem_offeredValues_list.mpr hmem, hscalar, htrim⟩
  | _ =>
    constructor
    · rintro ⟨-, v, hmem, -⟩
      cases hmem
    · exact False.elim

/-! ## Running an enumeration -/

/-- An enumeration passes the scalars that are written as an allowed text. -/
theorem enumeration_eq_passes_iff {checks : Checks} :
    enumeration checks value parameter = .passes ↔
      isScalar value = true ∧ value.written ∈ allowedValues checks parameter := by
  unfold enumeration
  dsimp only
  split
  · next hnone => simp [hnone]
  · split
    · next hpass => simpa using hpass
    · next hpass => simpa using hpass

/-- An enumeration cannot work with a parameter that leaves it nothing to allow. -/
theorem enumeration_eq_unusable_iff {checks : Checks} {phrase : Phrase} :
    enumeration checks value parameter = .unusableParameter phrase ↔
      phrase = .enumRequiresValues ∧ allowedValues checks parameter = [] := by
  unfold enumeration
  dsimp only
  split
  · next hnone => simp [hnone, eq_comm]
  · next hsome => split <;> simp [hsome]

variable {wording : Wording} {field : FieldId}

theorem enum_validate_eq_ok_iff :
    BuiltinRule.enum.validate (.standard thisYear) wording field value parameter = .ok () ↔
      isScalar value = true ∧ value.written ∈ allowedValues (.standard thisYear) parameter :=
  Verdict.tell_eq_ok_iff.trans enumeration_eq_passes_iff

/-- The parameter is found to be at fault where nothing is allowed. -/
theorem enum_validate_eq_configuration_iff (htells : wording.Tells .enumRequiresValues 0) :
    (∃ message code defect, BuiltinRule.enum.validate (.standard thisYear) wording field value
      parameter = .error (.configuration message code defect)) ↔
      allowedValues (.standard thisYear) parameter = [] := by
  constructor
  · rintro ⟨message, code, defect, h⟩
    obtain ⟨phrase, hverdict⟩ := Verdict.eq_unusable_of_tell h
    exact (enumeration_eq_unusable_iff.mp hverdict).2
  · intro hnone
    obtain ⟨message, hmessage⟩ := htells [] rfl
    have hverdict : BuiltinRule.enum.verdict (.standard thisYear) value parameter =
        .unusableParameter .enumRequiresValues := enumeration_eq_unusable_iff.mpr ⟨rfl, hnone⟩
    refine ⟨message, Failure.configurationCode, none, ?_⟩
    rw [validate, hverdict]
    exact Verdict.tell_of_unusable hmessage

/-- An enumeration allows what its parameter lists: it passes the scalars that are written as one of
these texts, and finds the parameter at fault where there are none. -/
structure Enumerates (thisYear : Nat) (wording : Wording) (field : FieldId) (parameter : Value) :
    Prop where
  passes : ∀ value, isScalar value = true →
    (BuiltinRule.enum.validate (.standard thisYear) wording field value parameter = .ok () ↔
      parameter.Lists value.written)
  unusable : ∀ value,
    (∃ message code defect, BuiltinRule.enum.validate (.standard thisYear) wording field value
      parameter = .error (.configuration message code defect)) ↔ ¬ ∃ s, parameter.Lists s

/-- A list of which an enumeration allows what it lists is tidy: a text among its items is itself a
listed value. -/
theorem Enumerates.isTidy (h : Enumerates thisYear wording field parameter) :
    parameter.IsTidy := by
  cases parameter with
  | list items =>
    intro t hmem
    have hpass := (h.passes (.text t) rfl).mpr ⟨.text t, hmem, rfl, rfl⟩
    obtain ⟨-, hallowed⟩ := enum_validate_eq_ok_iff.mp hpass
    obtain ⟨hne, v, -, -, htrim⟩ := mem_allowedValues_iff.mp hallowed
    obtain rfl : Text.trim v.written = t := htrim
    exact ⟨hne, Text.trim_trim v.written⟩
  | _ => trivial

/-- An enumeration allows what its parameter lists just where that is a text, or a list whose texts
are there and have no blanks around them, or nothing that can list values. It passes scalars only,
under any parameter. -/
theorem enumerates_iff_isTidy (thisYear : Nat) (wording : Wording)
    (htells : wording.Tells .enumRequiresValues 0) (field : FieldId) (parameter : Value) :
    (Enumerates thisYear wording field parameter ↔ parameter.IsTidy) ∧
      ∀ value, isScalar value = false →
        BuiltinRule.enum.validate (.standard thisYear) wording field value parameter ≠ .ok () := by
  refine ⟨⟨Enumerates.isTidy, fun htidy => ⟨fun value hscalar => ?_, fun value => ?_⟩⟩, ?_⟩
  · rw [enum_validate_eq_ok_iff, mem_allowedValues_iff_lists htidy]
    exact and_iff_right hscalar
  · rw [enum_validate_eq_configuration_iff htells, List.eq_nil_iff_forall_not_mem, not_exists]
    exact forall_congr' fun s => not_congr (mem_allowedValues_iff_lists htidy)
  · intro value hscalar hpass
    rw [(enum_validate_eq_ok_iff.mp hpass).1] at hscalar
    cases hscalar

/-- Numbers and texts may stand in one list. -/
theorem enumerates_iff_isTidy_levels :
    let judge (value : Value) := BuiltinRule.enum.validate (.standard 2024)
      (.bundled Phrase.bundledLanguage) (.name "level") value
        (.list [some (.number (.ofNat 2)), none, some (.ofString "very high")])
    judge (.ofString "2") = .ok () ∧ judge (.ofString "very high") = .ok () ∧
      judge (.list [some (.ofString "2")]) ≠ .ok () := by
  obtain ⟨hiff, hscalar⟩ := enumerates_iff_isTidy 2024 (.bundled Phrase.bundledLanguage)
    (Wording.bundled_tells .enumRequiresValues) (.name "level")
    (.list [some (.number (.ofNat 2)), none, some (.ofString "very high")])
  have htidy : Value.IsTidy
      (.list [some (.number (.ofNat 2)), none, some (.ofString "very high")]) := by
    intro t hmem
    simp only [List.mem_cons, Option.some.injEq, reduceCtorEq, List.not_mem_nil, or_false,
      false_or] at hmem
    cases hmem
    decide
  have henumerates := hiff.mpr htidy
  refine ⟨(henumerates.passes _ rfl).mpr ?_, (henumerates.passes _ rfl).mpr ?_, hscalar _ rfl⟩
  · exact ⟨.number (.ofNat 2), .head _, rfl, by decide +kernel⟩
  · exact ⟨.ofString "very high", .tail _ (.tail _ (.head _)), rfl, rfl⟩

/-- A text with a blank before it is not allowed though it is listed; and a list of the empty text
is found to be at fault though it lists one. -/
theorem not_enumerates :
    let judge (t : Text) := BuiltinRule.enum.validate (.standard 2024)
      (.bundled Phrase.bundledLanguage) (.name "s") (.text t) (.list [some (.text t)])
    (judge " a" ≠ .ok () ∧ Value.Lists (.list [some (.text " a")]) " a") ∧
      (∃ message code defect, judge "" = .error (.configuration message code defect)) ∧
      Value.Lists (.list [some (.text "")]) "" := by
  intro judge
  refine ⟨⟨?_, .text " a", .head _, rfl, rfl⟩, ?_, .text "", .head _, rfl, rfl⟩
  · intro hpass
    exact absurd (enum_validate_eq_ok_iff.mp hpass).2 (by decide)
  · have htells := Wording.bundled_tells .enumRequiresValues
    exact (enum_validate_eq_configuration_iff htells).mpr (by decide)

end BuiltinRule

end FieldValidation
