import FieldValidation.Proofs.Message.Telling
import FieldValidation.Proofs.Rule.Parsing
import FieldValidation.Proofs.Validator.Compilation
import FieldValidation.Proofs.Validator.Presence

/-!
# Families of alternatives

Fields that each name all the others as their partners are alternatives to one another: a dataset
is to have just one of them. Each field asks to be there if and only if no other is, and a family
of at least two fields has this of all its members just where one of them is there alone. If none
is there, every member is reported to be missing, and if several are, just those are reported to
exclude one another.

## Main definitions

* `Alternatives`: a family of fields
* `Alternatives.DeclaredBy`: declarations that make the fields partners of one another
* `Alternatives.IsMember`: a member of a family with its rules
* `Alternatives.MadeInto`: a validator of a family

## Main results

* `Alternatives.exists_madeInto`: the declarations of a family make a validator of it
* `Alternatives.verdict_eq_pass_iff`: what a member asks for
* `Alternatives.forall_asked_iff`: what all members ask for together
* `Alternatives.MadeInto.reports_missing`, `Alternatives.MadeInto.reports_conflict`: what is
  reported
* `Alternatives.exactly_one_of_declaredBy`: a dataset is to have just one member
-/

namespace FieldValidation

/-- The text of a rule that names a partner. -/
def partnerRule (partner : Text) : Text := RuleSpec.written ⟨"requiredWithout", some partner⟩

/-- Fields that are alternatives to one another, at least two, under names that a rule text can
give as they are. -/
structure Alternatives where
  fields : List Text
  nodup : fields.Nodup
  several : 2 ≤ fields.length
  trimmed : ∀ field ∈ fields, Text.trim field = field
  nonempty : ∀ field ∈ fields, field ≠ []

namespace Alternatives

/-- Declarations of just the members of a family, each with rules that name every other member as
a partner, in any order, and with no other rules. -/
structure DeclaredBy (family : Alternatives) (declarations : Declarations) : Prop where
  fields_perm : (declarations.map Prod.fst).Perm family.fields
  definitions_eq : ∀ entry ∈ declarations, ∃ others : List Text,
    others.Perm (family.fields.erase entry.1) ∧
      entry.2 = others.map fun other => .text (partnerRule other)

/-- A member of a family with its rules: every other member is named as a partner. -/
def IsMember (family : Alternatives) (entry : Text × List FieldRule) : Prop :=
  entry.1 ∈ family.fields ∧ ∃ (others : List Text) (message : Option Text),
    others.Perm (family.fields.erase entry.1) ∧
      entry.2 = others.map fun other => .named ⟨requiredWithoutName, .text other, message⟩

variable {family : Alternatives}

/-! ## Their declarations -/

theorem compile_partnerRule {partner : Text} (hpartner : partner ∈ family.fields)
    (wording : Wording) (messages : Entries Text) (field : Text) :
    (Definition.text (partnerRule partner)).compile wording messages field =
      .ok (.named ⟨requiredWithoutName, .text partner,
        findMessage messages field requiredWithoutName⟩) := by
  have hparse : RuleSpec.parse? (partnerRule partner) =
      some ⟨requiredWithoutName, some partner⟩ := by
    have hlower : Text.toLower (Text.ofString "requiredWithout") = requiredWithoutName := by
      decide +kernel
    rw [← hlower]
    exact RuleSpec.parse?_written (by decide +kernel) (by decide +kernel) (by decide +kernel)
      (family.trimmed _ hpartner) (family.nonempty _ hpartner)
  simp only [Definition.compile, hparse]
  rfl

/-- The rules of a member are compiled to the partners it names. -/
theorem compile_partnerRules {field : Text} {others : List Text}
    (hothers : ∀ other ∈ others, other ∈ family.fields) (wording : Wording)
    (messages : Entries Text) :
    (others.map fun other => Definition.text (partnerRule other)).mapM
        (Definition.compile wording messages field) =
      .ok (others.map fun other => .named ⟨requiredWithoutName, .text other,
        findMessage messages field requiredWithoutName⟩) := by
  rw [List.mapM_map]
  exact mapM_eq_ok_map fun other hother =>
    compile_partnerRule (hothers other hother) wording messages field

/-- The declarations of a family are compiled to its members, in their order. -/
theorem exists_compile {declarations : Declarations} (h : family.DeclaredBy declarations)
    (wording : Wording) (messages : Entries Text) :
    ∃ fields, compile wording messages declarations = .ok fields ∧
      fields.map Prod.fst = declarations.map Prod.fst ∧
      ∀ entry ∈ fields, family.IsMember entry := by
  have hmember : ∀ declaration ∈ declarations, ∃ entry, family.IsMember entry ∧
      (do return (declaration.1,
          ← declaration.2.mapM (Definition.compile wording messages declaration.1)) :
        Except Failure (Text × List FieldRule)) = .ok entry := by
    rintro ⟨field, definitions⟩ hdeclaration
    have hfield : field ∈ family.fields :=
      h.fields_perm.subset (List.mem_map_of_mem hdeclaration)
    obtain ⟨others, hothers, hdefinitions⟩ := h.definitions_eq _ hdeclaration
    have hmem : ∀ other ∈ others, other ∈ family.fields := fun other hother =>
      List.mem_of_mem_erase (hothers.subset hother)
    refine ⟨(field, others.map fun other => .named ⟨requiredWithoutName, .text other,
      findMessage messages field requiredWithoutName⟩), ⟨hfield, others, _, hothers, rfl⟩, ?_⟩
    rw [hdefinitions]
    simp only [compile_partnerRules hmem]
    rfl
  obtain ⟨fields, hfields⟩ := exists_mapM_eq_ok fun declaration hdeclaration =>
    (hmember declaration hdeclaration).imp fun _ => And.right
  refine ⟨fields, hfields, fields_of_compile hfields, fun entry hentry => ?_⟩
  obtain ⟨declaration, hdeclaration, hcompiled⟩ := exists_of_mem_mapM hfields hentry
  obtain ⟨entry', hmember', hcompiled'⟩ := hmember declaration hdeclaration
  obtain rfl : entry' = entry := Except.ok.inj (hcompiled'.symm.trans hcompiled)
  exact hmember'

/-! ## What a member asks for -/

theorem namesPartner_partner (other : Text) (message : Option Text) :
    (FieldRule.named ⟨requiredWithoutName, .text other, message⟩).namesPartner = true := by
  show decide (Text.toLower requiredWithoutName = requiredWithoutName) = true
  decide +kernel

theorem isRequired_partner (other : Text) (message : Option Text) :
    (FieldRule.named ⟨requiredWithoutName, .text other, message⟩).isRequired = false := by
  show decide (Text.toLower requiredWithoutName = requiredName) = false
  decide +kernel

/-- The other members are what a member has for partners. -/
theorem constraints_of_partners {field : Text} {others : List Text} (hother : field ∉ others)
    (message : Option Text) :
    Constraints.ofRules (some (.name field))
        (others.map fun other => .named ⟨requiredWithoutName, .text other, message⟩) =
      .ok ⟨false, others.map FieldId.name⟩ := by
  have hpartners : (others.map fun other =>
        FieldRule.named ⟨requiredWithoutName, .text other, message⟩).mapM
          (FieldRule.partner (some (.name field))) = .ok (others.map FieldId.name) := by
    rw [List.mapM_map]
    refine mapM_eq_ok_map fun other hmem => ?_
    have hne : field ≠ other := fun heq => hother (heq ▸ hmem)
    simp [FieldRule.partner, FieldRule.parameter, FieldId.ofValue?, FieldId.written, hne]
  have hfilter : (others.map fun other =>
        FieldRule.named ⟨requiredWithoutName, .text other, message⟩).filter
          FieldRule.namesPartner =
      others.map fun other => .named ⟨requiredWithoutName, .text other, message⟩ := by
    rw [List.filter_eq_self, List.forall_mem_map]
    exact fun other _ => namesPartner_partner other message
  have hrequired : (others.map fun other =>
        FieldRule.named ⟨requiredWithoutName, .text other, message⟩).any FieldRule.isRequired =
      false := by
    rw [List.any_eq_false, List.forall_mem_map]
    exact fun other _ => by simp [isRequired_partner]
  unfold Constraints.ofRules
  rw [hfilter, hpartners, hrequired]
  rfl

/-- Whether a dataset with the fields told by `present` has a member besides `field`. -/
def HasOther (family : Alternatives) (present : Text → Bool) (field : Text) : Prop :=
  ∃ other ∈ family.fields, other ≠ field ∧ present other = true

/-- The requirement of a member: it has partners, and one is present where another member is. -/
theorem exists_requirement {entry : Text × List FieldRule} (h : family.IsMember entry)
    (wording : Wording) (dataset : Value) :
    ∃ r, Requirement.ofRules wording entry.1 entry.2 dataset.hasField = .ok r ∧
      r.fieldPresent = dataset.hasField entry.1 ∧ r.constraints.required = false ∧
      r.constraints.partners ≠ [] ∧
      (r.partnerPresent = true ↔
        family.HasOther (fun field => dataset.hasField field) entry.1) := by
  obtain ⟨field, rules⟩ := entry
  obtain ⟨hfield, others, message, hothers, hrules⟩ := h
  subst hrules
  have hmem : ∀ other, other ∈ others ↔ other ≠ field ∧ other ∈ family.fields := fun other =>
    hothers.mem_iff.trans family.nodup.mem_erase_iff
  have hself : field ∉ others := fun hself => ((hmem field).mp hself).1 rfl
  have hconstraints := constraints_of_partners hself message
  refine ⟨.ofConstraints field ⟨false, others.map .name⟩ dataset.hasField,
    by simp only [Requirement.ofRules, hconstraints], rfl, rfl, ?_, ?_⟩
  · have hlength := hothers.length_eq
    rw [List.length_erase_of_mem hfield] at hlength
    have hseveral := family.several
    intro hnone
    have hnone' : others = [] := List.map_eq_nil_iff.mp hnone
    rw [hnone', List.length_nil] at hlength
    omega
  · show (others.map FieldId.name).any dataset.hasField = true ↔ _
    rw [List.any_eq_true]
    constructor
    · rintro ⟨partner, hpartner, hpresent⟩
      obtain ⟨other, hother, rfl⟩ := List.mem_map.mp hpartner
      obtain ⟨hne, hin⟩ := (hmem other).mp hother
      exact ⟨other, hin, hne, hpresent⟩
    · rintro ⟨other, hin, hne, hpresent⟩
      exact ⟨.name other, List.mem_map_of_mem ((hmem other).mpr ⟨hne, hin⟩), hpresent⟩

variable {v : Validator} {wording : Wording} {dataset : Value} {entry : Text × List FieldRule}

/-! ## The verdict on a member -/

theorem valueRules_of_isMember (h : family.IsMember entry) : valueRules entry.2 = [] := by
  obtain ⟨-, others, message, -, hrules⟩ := h
  rw [valueRules, List.filter_eq_nil_iff, hrules, List.forall_mem_map]
  intro other _
  simp [FieldRule.isRequirement, namesPartner_partner]

/-- A member passes if it is there and no other is, or the other way round. -/
theorem verdict_eq_pass_iff (h : family.IsMember entry) :
    v.verdict wording dataset entry = .ok none ↔
      (dataset.hasField entry.1 = true ↔
        ¬ family.HasOther (fun field => dataset.hasField field) entry.1) := by
  obtain ⟨r, hrules, hpresent, hoptional, hpartners, hother⟩ :=
    exists_requirement h wording dataset
  rw [← hpresent, ← hother, ← Requirement.outcome_eq_valid_iff hoptional hpartners]
  constructor
  · intro hpass
    exact Decidable.byContradiction fun hrefused =>
      Validator.verdict_ne_pass hrules hrefused hpass
  · intro hvalid
    exact Validator.verdict_of_valid hrules hvalid (valueRules_of_isMember h)

/-- Where no member is there, each is missing without an alternative. -/
theorem verdict_of_missing (h : family.IsMember entry)
    (hnone : ∀ field ∈ family.fields, dataset.hasField field = false) :
    (wording.Tells .eitherFieldOrOtherMustBePresent 2 →
      ∃ failure, v.verdict wording dataset entry = .ok (some failure) ∧ failure.field = entry.1 ∧
        failure.IsOf .missingWithoutAlternative) ∧
    (¬ wording.Tells .eitherFieldOrOtherMustBePresent 2 →
      ∃ fault, v.verdict wording dataset entry = .error (.catalog fault)) := by
  obtain ⟨r, hrules, hpresent, hoptional, hpartners, hother⟩ :=
    exists_requirement h wording dataset
  have hpartner : r.partnerPresent = false := by
    rw [Bool.eq_false_iff, Ne, hother]
    rintro ⟨other, hin, -, hthere⟩
    exact absurd ((hnone other hin).symm.trans hthere) (by simp)
  have hsome : r.constraints.partners.isEmpty = false := by simpa using hpartners
  have hout : r.outcome = .missingWithoutAlternative := by
    simp [Requirement.outcome, hpresent, hnone entry.1 h.1, hoptional, hpartner, hsome]
  have hphrase : r.outcome.phrase? = some .eitherFieldOrOtherMustBePresent := by rw [hout]; rfl
  rw [← hout]
  exact Validator.verdict_of_phrase hrules hphrase

/-- Where other members are there, each that is there itself excludes them. -/
theorem verdict_of_conflict (h : family.IsMember entry) (hthere : dataset.hasField entry.1 = true)
    (hothers : family.HasOther (fun field => dataset.hasField field) entry.1) :
    (wording.Tells .onlyOneOfFieldsCanBePresent 2 →
      ∃ failure, v.verdict wording dataset entry = .ok (some failure) ∧ failure.field = entry.1 ∧
        failure.IsOf .mutuallyExclusiveConflict) ∧
    (¬ wording.Tells .onlyOneOfFieldsCanBePresent 2 →
      ∃ fault, v.verdict wording dataset entry = .error (.catalog fault)) := by
  obtain ⟨r, hrules, hpresent, -, -, hother⟩ := exists_requirement h wording dataset
  have hout : r.outcome = .mutuallyExclusiveConflict := by
    simp [Requirement.outcome, hpresent, hthere, hother.mpr hothers]
  have hphrase : r.outcome.phrase? = some .onlyOneOfFieldsCanBePresent := by rw [hout]; rfl
  rw [← hout]
  exact Validator.verdict_of_phrase hrules hphrase

/-! ## The family as a whole -/

theorem exists_mem (family : Alternatives) : ∃ first, first ∈ family.fields := by
  have hseveral := family.several
  exact List.exists_mem_of_length_pos (by omega)

/-- Every member has what it asks for just where one of them is there alone. -/
theorem forall_asked_iff (family : Alternatives) (present : Text → Bool) :
    (∀ field ∈ family.fields, (present field = true ↔ ¬ family.HasOther present field)) ↔
      ∃ field ∈ family.fields, present field = true ∧
        ∀ other ∈ family.fields, present other = true → other = field := by
  constructor
  · intro hasked
    have hthere : ∃ field ∈ family.fields, present field = true := by
      obtain ⟨first, hfirst⟩ := family.exists_mem
      by_cases hpresent : present first = true
      · exact ⟨first, hfirst, hpresent⟩
      · have hother : family.HasOther present first :=
          Classical.byContradiction fun h => hpresent ((hasked first hfirst).mpr h)
        obtain ⟨other, hin, -, hpresent'⟩ := hother
        exact ⟨other, hin, hpresent'⟩
    obtain ⟨field, hfield, hpresent⟩ := hthere
    refine ⟨field, hfield, hpresent, fun other hin hother => ?_⟩
    have halone := (hasked field hfield).mp hpresent
    exact Decidable.byContradiction fun hne => halone ⟨other, hin, hne, hother⟩
  · rintro ⟨field, hfield, hpresent, halone⟩ member hmember
    constructor
    · rintro hthere ⟨other, hin, hne, hother⟩
      exact hne ((halone other hin hother).trans (halone member hmember hthere).symm)
    · intro hnone
      by_cases heq : field = member
      · exact heq ▸ hpresent
      · exact absurd ⟨field, hfield, heq, hpresent⟩ hnone

/-- A validator has just the members of a family for its fields. -/
structure MadeInto (family : Alternatives) (v : Validator) : Prop where
  fields_perm : (v.fields.map Prod.fst).Perm family.fields
  members : ∀ entry ∈ v.fields, family.IsMember entry

namespace MadeInto

theorem exists_entry (h : family.MadeInto v) {field : Text} (hfield : field ∈ family.fields) :
    ∃ entry ∈ v.fields, entry.1 = field :=
  List.mem_map.mp (h.fields_perm.mem_iff.mpr hfield)

/-- What passes has one member and no other. -/
theorem validate_eq_ok_iff (h : family.MadeInto v) (wording : Wording) (dataset : Value) :
    (v.validate wording dataset).result = .ok () ↔
      ∃ field ∈ family.fields, dataset.hasField field = true ∧
        ∀ other ∈ family.fields, dataset.hasField other = true → other = field := by
  rw [Validator.validate_eq_ok_iff, ← forall_asked_iff family fun field => dataset.hasField field]
  constructor
  · intro hpass field hfield
    obtain ⟨entry, hentry, rfl⟩ := h.exists_entry hfield
    exact (verdict_eq_pass_iff (h.members entry hentry)).mp (hpass entry hentry)
  · intro hasked entry hentry
    have hmember := h.members entry hentry
    exact (verdict_eq_pass_iff hmember).mpr (hasked entry.1 hmember.1)

/-- Where no member is there, every one is reported, or nothing for want of the words. -/
theorem reports_missing (h : family.MadeInto v) (wording : Wording)
    (hnone : ∀ field ∈ family.fields, dataset.hasField field = false) :
    (wording.Tells .eitherFieldOrOtherMustBePresent 2 →
      v.Reports wording dataset .missingWithoutAlternative (v.fields.map Prod.fst)) ∧
    (¬ wording.Tells .eitherFieldOrOtherMustBePresent 2 →
      ∃ fault, (v.validateAll wording dataset).result = .error (.catalog fault)) := by
  obtain ⟨first, hfirst⟩ := family.exists_mem
  obtain ⟨entry, hentry, -⟩ := h.exists_entry hfirst
  have hall : (v.fields.map Prod.fst).filter (fun _ => true) = v.fields.map Prod.fst :=
    List.filter_eq_self.mpr fun _ _ => rfl
  rw [← hall]
  exact Validator.reports_or_not (fun _ => true) (fun _ _ (hpass : true = false) => nomatch hpass)
    (fun entry hentry _ => verdict_of_missing (h.members entry hentry) hnone)
    ⟨entry, hentry, rfl⟩

/-- Where several members are there, just these are reported, or nothing for want of the words. -/
theorem reports_conflict (h : family.MadeInto v) (wording : Wording) {field other : Text}
    (hfield : field ∈ family.fields) (hpresent : dataset.hasField field = true)
    (hother : other ∈ family.fields) (hne : other ≠ field)
    (hpresent' : dataset.hasField other = true) :
    (wording.Tells .onlyOneOfFieldsCanBePresent 2 →
      v.Reports wording dataset .mutuallyExclusiveConflict
        ((v.fields.map Prod.fst).filter fun field => dataset.hasField field)) ∧
    (¬ wording.Tells .onlyOneOfFieldsCanBePresent 2 →
      ∃ fault, (v.validateAll wording dataset).result = .error (.catalog fault)) := by
  have hothers (member : Text) : family.HasOther (fun field => dataset.hasField field) member := by
    by_cases heq : other = member
    · exact ⟨field, hfield, fun h' => hne (heq.trans h'.symm), hpresent⟩
    · exact ⟨other, hother, heq, hpresent'⟩
  obtain ⟨entry, hentry, rfl⟩ := h.exists_entry hfield
  refine Validator.reports_or_not (fun field => dataset.hasField field) ?_
    (fun entry hentry hthere =>
      verdict_of_conflict (h.members entry hentry) hthere (hothers entry.1))
    ⟨entry, hentry, hpresent⟩
  intro entry hentry habsent
  rw [verdict_eq_pass_iff (h.members entry hentry), habsent]
  exact ⟨nofun, fun hnone => absurd (hothers entry.1) hnone⟩

end MadeInto

/-- The declarations of a family make a validator of it, in their order. -/
theorem exists_madeInto {declarations : Declarations} (h : family.DeclaredBy declarations)
    (wording : Wording) (registry : Registry) (messages : Entries Text) :
    ∃ v, Validator.ofDeclarations wording registry messages declarations = .ok v ∧
      v.fields.map Prod.fst = declarations.map Prod.fst ∧ family.MadeInto v := by
  obtain ⟨fields, hcompile, hfields, hmembers⟩ := exists_compile h wording messages
  refine ⟨⟨fields, messages, registry⟩, by rw [Validator.ofDeclarations, hcompile]; rfl, hfields,
    ?_, hmembers⟩
  rw [hfields]
  exact h.fields_perm

/-- **A dataset is to have just one member of a family.** The declarations of a family make a
validator, and what passes it are the datasets with one member and no other. Where none is there,
the report has every member, as missing without an alternative; where there are several, it has
just those that are there, as excluding one another. Where the catalog has no text for what is to be
reported, the validation fails for that instead, and there is no report. -/
theorem exactly_one_of_declaredBy {family : Alternatives} {declarations : Declarations}
    (h : family.DeclaredBy declarations) (construction : Wording) (registry : Registry)
    (messages : Entries Text) :
    ∃ v, Validator.ofDeclarations construction registry messages declarations = .ok v ∧
      ∀ (wording : Wording) (dataset : Value),
        ((v.validate wording dataset).result = .ok () ↔
          ∃ field ∈ family.fields, dataset.hasField field = true ∧
            ∀ other ∈ family.fields, dataset.hasField other = true → other = field) ∧
        ((∀ field ∈ family.fields, dataset.hasField field = false) →
          (wording.Tells .eitherFieldOrOtherMustBePresent 2 →
            v.Reports wording dataset .missingWithoutAlternative (declarations.map Prod.fst)) ∧
          (¬ wording.Tells .eitherFieldOrOtherMustBePresent 2 →
            ∃ fault, (v.validateAll wording dataset).result = .error (.catalog fault))) ∧
        ((∃ field ∈ family.fields, dataset.hasField field = true ∧
            ∃ other ∈ family.fields, other ≠ field ∧ dataset.hasField other = true) →
          (wording.Tells .onlyOneOfFieldsCanBePresent 2 →
            v.Reports wording dataset .mutuallyExclusiveConflict
              ((declarations.map Prod.fst).filter fun field => dataset.hasField field)) ∧
          (¬ wording.Tells .onlyOneOfFieldsCanBePresent 2 →
            ∃ fault, (v.validateAll wording dataset).result = .error (.catalog fault))) := by
  obtain ⟨v, hv, hfields, hmade⟩ := exists_madeInto h construction registry messages
  refine ⟨v, hv, fun wording dataset => ⟨hmade.validate_eq_ok_iff wording dataset, ?_, ?_⟩⟩
  · intro hnone
    rw [← hfields]
    exact hmade.reports_missing wording hnone
  · rintro ⟨field, hfield, hpresent, other, hother, hne, hpresent'⟩
    rw [← hfields]
    exact hmade.reports_conflict wording hfield hpresent hother hne hpresent'

/-- Three ways to reach somebody. -/
def contacts : Alternatives where
  fields := ["email", "phone", "fax"]
  nodup := by decide +kernel
  several := by decide
  trimmed := by decide +kernel
  nonempty := by decide +kernel

/-- Declarations of just one way to reach somebody. -/
def contactRules : Declarations :=
  [("phone", [.text (partnerRule "fax"), .text (partnerRule "email")]),
    ("email", [.text (partnerRule "phone"), .text (partnerRule "fax")]),
    ("fax", [.text (partnerRule "email"), .text (partnerRule "phone")])]

theorem declaredBy_contactRules : contacts.DeclaredBy contactRules := by
  refine ⟨by decide +kernel, ?_⟩
  intro entry hentry
  simp only [contactRules, List.mem_cons, List.not_mem_nil, or_false] at hentry
  rcases hentry with rfl | rfl | rfl
  · exact ⟨["fax", "email"], by decide +kernel, rfl⟩
  · exact ⟨["phone", "fax"], by decide +kernel, rfl⟩
  · exact ⟨["email", "phone"], by decide +kernel, rfl⟩

/-- Just one way to reach somebody is to be given: a phone alone passes, of nothing each way is
missing, and an address with a fax number are one too many. -/
theorem exactly_one_of_declaredBy_contacts :
    contacts.DeclaredBy contactRules ∧
      ∃ v, Validator.ofDeclarations (.bundled "en") (.standard (.standard 2025))
          [("fax.requiredWithout", "Who faxes?")] contactRules = .ok v ∧
        (v.validate (.bundled "en") (.record [("phone", .text "555-0100")])).result = .ok () ∧
        v.Reports (.bundled "en") (.record []) .missingWithoutAlternative
          ["phone", "email", "fax"] ∧
        v.Reports (.bundled "en") (.record [("fax", .null), ("email", .null)])
          .mutuallyExclusiveConflict ["email", "fax"] := by
  obtain ⟨v, hv, hv'⟩ := exactly_one_of_declaredBy declaredBy_contactRules (.bundled "en")
    (.standard (.standard 2025)) [("fax.requiredWithout", "Who faxes?")]
  refine ⟨declaredBy_contactRules, v, hv, (hv' _ _).1.mpr ⟨"phone", by decide +kernel⟩,
    ((hv' _ _).2.1 (by decide +kernel)).1 (Wording.bundled_tells .eitherFieldOrOtherMustBePresent),
    ?_⟩
  have hreports := ((hv' (.bundled "en") (.record [("fax", .null), ("email", .null)])).2.2
    ⟨"fax", by decide +kernel, by decide +kernel, "email", by decide +kernel⟩).1
    (Wording.bundled_tells .onlyOneOfFieldsCanBePresent)
  have hfields : (["phone", "email", "fax"] : List Text).filter (fun field : Text =>
      (Value.record [("fax", .null), ("email", .null)]).hasField field) =
        (["email", "fax"] : List Text) := by
    decide +kernel
  rw [← hfields]
  exact hreports

/-- In German, of which the catalog has no texts, there is no report that each way to reach somebody
is missing. -/
theorem not_reports_untold :
    contacts.DeclaredBy contactRules ∧
      ∃ v, Validator.ofDeclarations (.bundled "de") (.standard (.standard 2025)) [] contactRules =
          .ok v ∧
        ¬ v.Reports (.bundled "de") (.record []) .missingWithoutAlternative
          ["phone", "email", "fax"] := by
  obtain ⟨v, hv, -, hmade⟩ :=
    exists_madeInto declaredBy_contactRules (.bundled "de") (.standard (.standard 2025)) []
  refine ⟨declaredBy_contactRules, v, hv, ?_⟩
  rintro ⟨failures, -, hreport, -⟩
  have hlanguage : Text.ofString "de" ≠ Phrase.bundledLanguage := by decide
  have hnone : ∀ field ∈ contacts.fields, (Value.record []).hasField (.name field) = false := by
    decide +kernel
  obtain ⟨fault, hfault⟩ := (hmade.reports_missing (.bundled "de") hnone).2
    (Wording.bundled_not_tells hlanguage _ _)
  rw [hfault] at hreport
  cases hreport

end Alternatives

end FieldValidation
