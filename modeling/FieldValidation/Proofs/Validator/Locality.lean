import FieldValidation.Proofs.Validator.Compilation
import FieldValidation.Proofs.Validator.Fields
import FieldValidation.Proofs.Value.Lookup

/-!
# A verdict depends on its field and on the partners

The verdict on a field depends on the dataset through the look-up of the field and the presence of
its partners, and on no other field. So whatever else a dataset holds never matters, and a report
is made of the reports of the validators for one field each.

## Main definitions

* `SameView`: datasets that look the same to the rules of a field
* `Validator.fieldsRead`: the fields whose value or presence is asked for
* `Validator.Alike`: datasets that a validator does not tell apart
* `Validator.only`: the validator of one field

## Main results

* `Validator.checkField_congr`: the check of a field sees no more than its view
* `Validator.alike_of_sameView`, `Validator.alike_of_child?`: nor does the validator
* `Validator.exists_of_failuresOf`: the failures are those of the single fields
* `Validator.validate_local`: locality and composition
-/

namespace FieldValidation

/-- The datasets look the same to the rules of a field: they have the same value for it, or none,
and the same partners of it. -/
structure SameView (field : Text) (rules : List FieldRule) (d₁ d₂ : Value) : Prop where
  lookup_eq : d₁.lookup field = d₂.lookup field
  hasField_eq : ∀ partner ∈ partnersNamed rules, d₁.hasField partner = d₂.hasField partner

namespace Validator

/-- The fields whose value or presence is asked for: those declared and their partners. -/
def fieldsRead (v : Validator) : List FieldId :=
  v.fields.flatMap fun (field, rules) => .name field :: partnersNamed rules

/-- Either way to validate comes to the same on the two datasets, and runs the same rules. -/
def Alike (v : Validator) (wording : Wording) (d₁ d₂ : Value) : Prop :=
  v.validate wording d₁ = v.validate wording d₂ ∧
    v.validateAll wording d₁ = v.validateAll wording d₂

/-- The validator of one field. -/
def only (v : Validator) (entry : Text × List FieldRule) : Validator := { v with fields := [entry] }

variable {v : Validator} {wording : Wording} {dataset d₁ d₂ : Value}

/-! ## Two datasets -/

/-- The check of a field sees no more of a dataset than its view. -/
theorem checkField_congr {field : Text} {rules : List FieldRule}
    (h : SameView field rules d₁ d₂) :
    v.checkField wording d₁ field rules = v.checkField wording d₂ field rules := by
  have hfield : d₁.hasField field = d₂.hasField field := by
    unfold Value.hasField
    rw [h.lookup_eq]
  have hfetch : fetch wording d₁ field = fetch wording d₂ field := by
    unfold fetch
    rw [h.lookup_eq]
  unfold checkField
  rw [Requirement.ofRules_congr hfield h.hasField_eq, hfetch]

/-- Datasets that look the same to the rules of every field are not told apart. -/
theorem alike_of_sameView (h : ∀ entry ∈ v.fields, SameView entry.1 entry.2 d₁ d₂) :
    v.Alike wording d₁ d₂ := by
  have hcheck : ∀ entry ∈ v.fields, v.checkField wording d₁ entry.1 entry.2 =
      v.checkField wording d₂ entry.1 entry.2 :=
    fun entry hentry => checkField_congr (h entry hentry)
  constructor
  · unfold validate firstFailure
    rw [firstFailureOf_congr hcheck]
  · unfold validateAll failures
    rw [failuresOf_congr hcheck]

theorem sameView_of_child?
    (h : ∀ id ∈ v.fieldsRead, d₁.child? id.firstStep = d₂.child? id.firstStep)
    {entry : Text × List FieldRule} (hentry : entry ∈ v.fields) :
    SameView entry.1 entry.2 d₁ d₂ where
  lookup_eq :=
    Value.lookup_congr (h _ (List.mem_flatMap.mpr ⟨entry, hentry, List.mem_cons_self⟩))
  hasField_eq _ hpartner :=
    Value.hasField_congr
      (h _ (List.mem_flatMap.mpr ⟨entry, hentry, List.mem_cons_of_mem _ hpartner⟩))

/-- Datasets with the same children under the first steps of the fields that are asked for are not
told apart, whatever other children they have. -/
theorem alike_of_child?
    (h : ∀ id ∈ v.fieldsRead, d₁.child? id.firstStep = d₂.child? id.firstStep) :
    v.Alike wording d₁ d₂ :=
  alike_of_sameView fun _ hentry => sameView_of_child? h hentry

/-! ## One field at a time -/

theorem verdict_only (entry entry' : Text × List FieldRule) :
    (v.only entry).verdict wording dataset entry' = v.verdict wording dataset entry' := rfl

/-- The report on one field has its failure, if it has one. -/
theorem result_validateAll_only (entry : Text × List FieldRule) :
    ((v.only entry).validateAll wording dataset).result =
      (v.verdict wording dataset entry).map
        fun found => ⟨found.toList.map FieldFailure.entry⟩ := by
  rw [result_validateAll]
  show ((v.only entry).failuresOf wording dataset [entry]).result.map _ = _
  rw [result_failuresOf_cons, verdict_only]
  cases v.verdict wording dataset entry with
  | error failure => rfl
  | ok found => simp [failuresOf, bind, Except.bind, pure, Except.pure, Except.map]

/-- The failures are those of the single fields, one field after the other. -/
theorem exists_of_failuresOf {fields : CompiledRules} {failures : List FieldFailure}
    (h : (v.failuresOf wording dataset fields).result = .ok failures) :
    ∃ reports,
      fields.mapM (fun entry => ((v.only entry).validateAll wording dataset).result) =
        .ok reports ∧
      failures.map FieldFailure.entry = reports.flatMap Report.errors := by
  induction fields generalizing failures with
  | nil => cases h; exact ⟨[], rfl, rfl⟩
  | cons entry rest ih =>
    obtain ⟨found, others, hentry, hrest, rfl⟩ := failuresOf_cons_eq_ok h
    obtain ⟨reports, hreports, hothers⟩ := ih hrest
    refine ⟨⟨found.toList.map FieldFailure.entry⟩ :: reports, ?_, ?_⟩
    · rw [List.mapM_cons, hreports, result_validateAll_only, hentry]
      rfl
    · rw [List.map_append, hothers, List.flatMap_cons]

/-- The validator of one declared field is the one that its declaration alone makes. -/
theorem ofDeclarations_only {registry : Registry} {messages : Entries Text}
    {declarations : Declarations}
    (h : ofDeclarations wording registry messages declarations = .ok v) :
    declarations.mapM (fun declaration =>
        ofDeclarations wording registry messages [declaration]) =
      .ok (v.fields.map v.only) := by
  obtain ⟨fields, hcompile, rfl⟩ := ofDeclarations_eq_ok_iff.mp h
  have hsingle : ∀ declaration : Text × List Definition,
      ofDeclarations wording registry messages [declaration] =
        (do
          let rules ← declaration.2.mapM (Definition.compile wording messages declaration.1)
          return (declaration.1, rules) :
            Except Failure (Text × List FieldRule)).map
          fun entry => ⟨[entry], messages, registry⟩ := by
    intro declaration
    obtain ⟨field, definitions⟩ := declaration
    simp only [ofDeclarations, compile, List.mapM_cons, List.mapM_nil]
    cases definitions.mapM (Definition.compile wording messages field) <;> rfl
  simp only [hsingle, mapM_map_result]
  exact congrArg (Except.map _) hcompile

/-! ## Locality and composition -/

/-- **A verdict depends on its field and the partners.** Datasets that look the same to the rules
of every declared field are not told apart; so the children under other keys never matter, and in
a record they can be set and deleted at will. Where a report is made, it is the reports of the
validators of the single fields, which are those of the single declarations, one after the
other. -/
theorem validate_local (v : Validator) (wording : Wording) :
    (∀ d₁ d₂, (∀ entry ∈ v.fields, SameView entry.1 entry.2 d₁ d₂) → v.Alike wording d₁ d₂) ∧
    (∀ d₁ d₂, (∀ id ∈ v.fieldsRead, d₁.child? id.firstStep = d₂.child? id.firstStep) →
      v.Alike wording d₁ d₂) ∧
    (∀ entries key value, (∀ id ∈ v.fieldsRead, id.firstStep.written ≠ key) →
      v.Alike wording ((Value.record entries).setField (.text key) value) (.record entries) ∧
        v.Alike wording ((Value.record entries).deleteField (.text key)) (.record entries)) ∧
    (∀ dataset report, (v.validateAll wording dataset).result = .ok report →
      ∃ reports,
        v.fields.mapM (fun entry => ((v.only entry).validateAll wording dataset).result) =
          .ok reports ∧
        report.errors = reports.flatMap Report.errors) ∧
    (∀ wording' declarations,
      ofDeclarations wording' v.registry v.messages declarations = .ok v →
      declarations.mapM (fun declaration =>
          ofDeclarations wording' v.registry v.messages [declaration]) =
        .ok (v.fields.map v.only)) := by
  refine ⟨fun d₁ d₂ h => alike_of_sameView h, fun d₁ d₂ h => alike_of_child? h, ?_, ?_, ?_⟩
  · intro entries key value hkey
    refine ⟨alike_of_child? fun id hid => ?_, alike_of_child? fun id hid => ?_⟩
    · exact Value.child?_setField_of_ne entries value (hkey id hid)
    · exact Value.child?_deleteField_of_ne entries (hkey id hid)
  · intro dataset report hreport
    rw [result_validateAll] at hreport
    cases hall : (v.failuresOf wording dataset v.fields).result with
    | error failure => rw [hall] at hreport; cases hreport
    | ok failures =>
      rw [hall] at hreport
      cases hreport
      exact exists_of_failuresOf hall
  · intro wording' declarations hv
    exact ofDeclarations_only hv

end Validator

end FieldValidation
