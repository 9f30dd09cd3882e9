import FieldValidation.Proofs.Failure.Kinds
import FieldValidation.Proofs.Message.Telling
import FieldValidation.Proofs.Value.Lookup
import FieldValidation.Validator.Basic

/-!
# Dotted names

A dotted name is looked up piece by piece, so what stands before a dot leads to a container in which
what stands after it is looked up in turn. The pieces may be empty and there may be any number of
them. What is no container has no fields, whatever they are called.

A field can be read in three ways: whether it is there, its value, and its value or a fallback. All
three look the field up, and they agree on whether it is there, also where its value is null or
undefined. Two things are to be known of them. An undefined fallback counts as none, and then the
fallback is null; and the error for a field that is not there needs a text, which the catalog may
not have.

## Main definitions

* `FieldId.dotted`: two names with a dot between them
* `Value.isContainer`: whether a value can have fields

## Main results

* `Value.lookup_dotted`: looking up a dotted name
* `Value.lookup_dotted_and_reads`: which dotted names are found, and that the reads of a field agree
-/

namespace FieldValidation

/-! ## Dotted names -/

namespace FieldId

/-- The name of two names with a dot between them. -/
def dotted (p q : Text) : FieldId := .name (p ++ unit '.' :: q)

/-- An identifier that is not cut: a position, or a name without dots. -/
def Undotted : FieldId → Prop
  | .name t => unit '.' ∉ t
  | .position _ => True

theorem path_dotted (p q : Text) : (dotted p q).path = (name p).path ++ (name q).path := by
  simp only [dotted, path, Text.splitOn_append, List.map_append]

theorem path_of_undotted {field : FieldId} (h : field.Undotted) : field.path = [field] := by
  cases field with
  | name t => simp [path, Text.splitOn_of_not_mem h]
  | position x => rfl

end FieldId

namespace Value

variable {dataset v : Value} {field : FieldId}

/-! ## Containers -/

/-- Whether a value can have fields: lists, records and maps can. -/
def isContainer : Value → Bool
  | .list _ | .record _ | .map _ => true
  | _ => false

theorem child?_of_not_isContainer (h : v.isContainer = false) (key : FieldId) :
    v.child? key = none := by
  cases v with
  | list | record | map => cases h
  | _ => rfl

/-- What is no container has no fields. -/
theorem lookup_of_not_isContainer (h : v.isContainer = false) (field : FieldId) :
    v.lookup field = none := by
  obtain ⟨later, hpath⟩ := field.exists_path
  simp only [lookup, hpath, descend, child?_of_not_isContainer h]

theorem isContainer_of_lookup {w : Value} (h : v.lookup field = some w) :
    v.isContainer = true := by
  cases hv : v.isContainer with
  | true => rfl
  | false =>
    rw [lookup_of_not_isContainer hv] at h
    cases h

/-! ## Paths -/

/-- A path in two parts: the second part is taken from where the first one leads. -/
theorem descend_append (container : Value) (first second : List FieldId) :
    container.descend (first ++ second) =
      (container.descend first).bind fun v => v.descend second := by
  induction first generalizing container with
  | nil => rfl
  | cons key rest ih =>
    simp only [List.cons_append, descend]
    cases container.child? key with
    | none => rfl
    | some v => exact ih v

/-- What a dotted name leads to is looked up where the part before the dot leads. -/
theorem lookup_dotted (dataset : Value) (p q : Text) :
    dataset.lookup (.dotted p q) = (dataset.lookup (.name p)).bind fun v => v.lookup (.name q) := by
  simp only [lookup, FieldId.path_dotted, descend_append]

/-- A dotted name is found where the part before the dot leads to a container that has the part
after it. -/
theorem lookup_dotted_eq_some_iff {p q : Text} {w : Value} :
    dataset.lookup (.dotted p q) = some w ↔
      ∃ v, dataset.lookup (.name p) = some v ∧ v.isContainer = true ∧
        v.lookup (.name q) = some w := by
  rw [lookup_dotted, Option.bind_eq_some_iff]
  constructor
  · rintro ⟨v, hv, hw⟩
    exact ⟨v, hv, isContainer_of_lookup hw, hw⟩
  · rintro ⟨v, hv, -, hw⟩
    exact ⟨v, hv, hw⟩

/-! ## The reads of a field -/

theorem hasField_eq_true_iff : dataset.hasField field = true ↔ ∃ v, dataset.lookup field = some v :=
  Option.isSome_iff_exists

theorem hasField_eq_false_iff : dataset.hasField field = false ↔ dataset.lookup field = none := by
  rw [hasField, Option.isSome_eq_false_iff, Option.isNone_iff_eq_none]

@[simp] theorem asFallback_of_ne (h : v ≠ .undefined) : v.asFallback = v := by
  cases v with
  | undefined => exact absurd rfl h
  | _ => rfl

/-- A field that is not there falls back to whatever it is given, and no other field does. -/
theorem lookup_eq_none_iff_fieldOr :
    dataset.lookup field = none ↔
      ∀ fallback, fallback ≠ .undefined → dataset.fieldOr field fallback = fallback := by
  constructor
  · intro hnone fallback hdefined
    rw [fieldOr, lookupD, hnone, Option.getD_none, asFallback_of_ne hdefined]
  · intro hfall
    cases hlookup : dataset.lookup field with
    | none => rfl
    | some v =>
      have hnull : v = .null := by simpa [fieldOr, lookupD, hlookup] using hfall .null nofun
      have htrue : v = .bool true := by
        simpa [fieldOr, lookupD, hlookup] using hfall (.bool true) nofun
      rw [hnull] at htrue
      cases htrue

/-- The value of a field that is not there is asked for in vain, and no other is. -/
theorem lookup_eq_none_iff_fetch (wording : Wording) :
    dataset.lookup field = none ↔
      ∃ failure, Validator.fetch wording dataset field = .error failure := by
  unfold Validator.fetch
  cases dataset.lookup field with
  | some v => simp
  | none =>
    refine iff_of_true rfl ?_
    cases wording.say .fieldDoesNotExist [field.written] with
    | ok text => exact ⟨_, rfl⟩
    | error failure => exact ⟨failure, rfl⟩

/-- Where the catalog has a text for it, the error names the field that is not there. -/
theorem lookup_eq_none_iff_fieldNotFound {wording : Wording}
    (htells : wording.Tells .fieldDoesNotExist 1) :
    dataset.lookup field = none ↔
      ∃ text, Validator.fetch wording dataset field = .error (.fieldNotFound field text) := by
  constructor
  · intro hnone
    obtain ⟨text, htext⟩ := htells [field.written] rfl
    refine ⟨text, ?_⟩
    simp only [Validator.fetch, hnone, htext]
    rfl
  · rintro ⟨text, herror⟩
    exact (lookup_eq_none_iff_fetch wording).mpr ⟨_, herror⟩

/-- A dotted name is found just where the part before the dot leads to a container that has the part
after it, so the part before the dot is there whenever the whole is. A field is absent just where
asking for its value fails, with an error that names the field if there is a text for it, and just
where it falls back to whatever is given; if it is there, every read gives its value. -/
theorem lookup_dotted_and_reads (wording : Wording) (dataset : Value) :
    (∀ p q w, dataset.lookup (.dotted p q) = some w ↔
      ∃ v, dataset.lookup (.name p) = some v ∧ v.isContainer = true ∧
        v.lookup (.name q) = some w) ∧
    (∀ p q, dataset.hasField (.dotted p q) = true → dataset.hasField (.name p) = true) ∧
    ∀ field,
      (dataset.hasField field = false ↔
        ∃ failure, Validator.fetch wording dataset field = .error failure) ∧
      (wording.Tells .fieldDoesNotExist 1 →
        (dataset.hasField field = false ↔
          ∃ text, Validator.fetch wording dataset field = .error (.fieldNotFound field text))) ∧
      (dataset.hasField field = false ↔
        ∀ fallback, fallback ≠ .undefined → dataset.fieldOr field fallback = fallback) ∧
      (dataset.hasField field = true → ∃ value,
        Validator.fetch wording dataset field = .ok value ∧
          ∀ fallback, dataset.fieldOr field fallback = value) := by
  refine ⟨fun p q w => lookup_dotted_eq_some_iff, ?closed, fun field => ⟨?_, ?_, ?_, ?present⟩⟩
  case closed =>
    intro p q hwhole
    obtain ⟨w, hw⟩ := hasField_eq_true_iff.mp hwhole
    obtain ⟨v, hv, -⟩ := lookup_dotted_eq_some_iff.mp hw
    exact hasField_eq_true_iff.mpr ⟨v, hv⟩
  · exact hasField_eq_false_iff.trans (lookup_eq_none_iff_fetch wording)
  · intro htells
    exact hasField_eq_false_iff.trans (lookup_eq_none_iff_fieldNotFound htells)
  · exact hasField_eq_false_iff.trans lookup_eq_none_iff_fieldOr
  case present =>
    intro hthere
    obtain ⟨value, hvalue⟩ := hasField_eq_true_iff.mp hthere
    refine ⟨value, ?_, fun fallback => ?_⟩
    · rw [Validator.fetch, hvalue]
    · rw [fieldOr, lookupD, hvalue, Option.getD_some]

/-- A map in a list in a record, reached over a piece of digits and an empty one; its value is
undefined, and yet it is there. Past it there is nothing. -/
theorem lookup_dotted_and_reads_nested :
    let inner : Value := .map [(.text [], .undefined)]
    let dataset : Value := .record [("a", .ofList [inner])]
    let wording := Wording.bundled Phrase.bundledLanguage
    dataset.lookup (.dotted "a.0" []) = some .undefined ∧
      dataset.fieldOr (.dotted "a.0" []) .null = .undefined ∧
      ∃ text, Validator.fetch wording dataset (.dotted "a.0." "b") =
        .error (.fieldNotFound (.dotted "a.0." "b") text) := by
  intro inner dataset wording
  obtain ⟨hdotted, -, hreads⟩ := lookup_dotted_and_reads wording dataset
  have hinner : dataset.lookup (.name "a.0") = some inner := rfl
  have hwhole : dataset.lookup (.dotted "a.0" []) = some .undefined :=
    (hdotted "a.0" [] .undefined).mpr ⟨inner, hinner, rfl, rfl⟩
  obtain ⟨-, -, -, hvalue⟩ := hreads (.dotted "a.0" [])
  obtain ⟨value, hfetch, hfallback⟩ := hvalue (hasField_eq_true_iff.mpr ⟨_, hwhole⟩)
  obtain ⟨-, hmissing, -, -⟩ := hreads (.dotted "a.0." "b")
  refine ⟨hwhole, ?_, (hmissing ?_).mp ?_⟩
  · rw [Validator.fetch, hwhole] at hfetch
    rw [hfallback, ← Except.ok.inj hfetch]
  · exact Wording.bundled_tells .fieldDoesNotExist
  · rfl

/-- An undefined fallback is not what an absent field falls back to, and in a language for which
there are no texts the error for such a field is another. -/
theorem not_lookup_dotted_and_reads :
    (¬ ((Value.record []).hasField (.name "a") = false ↔
        ∀ fallback, (Value.record []).fieldOr (.name "a") fallback = fallback)) ∧
      ¬ ((Value.record []).hasField (.name "a") = false ↔
        ∃ text, Validator.fetch (.bundled "de") (.record []) (.name "a") =
          .error (.fieldNotFound (.name "a") text)) := by
  constructor
  · intro h
    have hundefined := h.mp rfl .undefined
    cases hundefined
  · intro h
    obtain ⟨text, htext⟩ := h.mp rfl
    have hlanguage : Text.ofString "de" ≠ Phrase.bundledLanguage := by decide
    have hsay := Wording.bundled_say_of_ne hlanguage .fieldDoesNotExist
      [(FieldId.name "a").written]
    have hlookup : (Value.record []).lookup (.name "a") = none := rfl
    simp only [Validator.fetch, hlookup, hsay] at htext
    cases htext

end Value

end FieldValidation
