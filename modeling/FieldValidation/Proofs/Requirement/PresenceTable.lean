import Mathlib.Data.List.TakeWhile
import FieldValidation.Proofs.Requirement.Resolution
import FieldValidation.Requirement.Inquiry

/-!
# The table of presence

What the presence of a field is resolved to is a table over four questions: whether the field is
there, whether a partner is, whether the field is required, and whether it has partners at all.
Rules that misname a partner settle nothing and ask for nothing; any others ask for the field and
then for the partners they name, in the order of the rules, up to the first that is present.

## Main definitions

* `FieldRule.Misnames`: a rule names as a partner what cannot be one
* `AsksUpToFirst`: which partners are asked for
* `Requirement.Resolves`: the table of outcomes
* `Requirement.SettlesPresence`: what a requirement settles about the presence of a field

## Main results

* `Constraints.exists_defect`, `Constraints.ofRules_of_named`: when rules have constraints, and
  which
* `Requirement.inquiry_eq`: what is asked for on the way to a requirement
* `Requirement.outcome_eq_iff_resolves`: the outcome is the one in the table
* `Requirement.inquiry_settles`: rules either misname a partner or settle presence by the table
-/

namespace FieldValidation

/-! ## The constraints of rules -/

/-- A rule names as the partner of a field what cannot be one: its parameter identifies no field, or
is written as the field itself is. -/
def FieldRule.Misnames (field : FieldId) (rule : FieldRule) : Prop :=
  rule.namesPartner = true ∧
    ((∀ partner : FieldId, rule.parameter ≠ partner.toValue) ∨
      rule.parameter.written = field.written)

section Constraints

variable {field : FieldId} {rule : FieldRule} {rules : List FieldRule}

theorem FieldId.ofValue?_eq_some_iff {value : Value} {id : FieldId} :
    ofValue? value = some id ↔ value = id.toValue := by
  constructor
  · intro h
    cases value with
    | text | number => rw [← Option.some.inj h]; rfl
    | _ => cases h
  · rintro rfl
    cases id <;> rfl

theorem FieldId.written_toValue (id : FieldId) : id.toValue.written = id.written := by
  cases id <;> rfl

/-- A rule that names a partner has one to give unless it misnames it. -/
theorem FieldRule.misnames_iff (hnames : rule.namesPartner = true) :
    rule.Misnames field ↔ ∀ partner, rule.partner (some field) ≠ .ok partner := by
  unfold Misnames FieldRule.partner
  cases hvalue : FieldId.ofValue? rule.parameter with
  | none =>
    have hnone : ∀ partner : FieldId, rule.parameter ≠ partner.toValue := fun partner heq => by
      rw [FieldId.ofValue?_eq_some_iff.mpr heq] at hvalue
      cases hvalue
    simp [hnames, hnone]
  | some partner =>
    have heq := FieldId.ofValue?_eq_some_iff.mp hvalue
    by_cases hself : field.written = partner.written
    · simp [hnames, heq, FieldId.written_toValue, hself]
    · simp [hnames, heq, FieldId.written_toValue, hself, Ne.symm hself]

/-- Rules that misname a partner have a defect. -/
theorem Constraints.exists_defect (h : ∃ rule ∈ rules, rule.Misnames field) :
    ∃ defect, ofRules (some field) rules = .error defect := by
  obtain ⟨rule, hrule, hmisnames⟩ := h
  unfold ofRules
  cases hmap : (rules.filter FieldRule.namesPartner).mapM (FieldRule.partner (some field)) with
  | error defect => exact ⟨defect, rfl⟩
  | ok partners =>
    obtain ⟨partner, hpartner⟩ :=
      exists_of_mapM_eq_ok hmap (List.mem_filter.mpr ⟨hrule, hmisnames.1⟩)
    exact absurd hpartner ((FieldRule.misnames_iff hmisnames.1).mp hmisnames partner)

/-- The constraints of other rules are whether one asks for the field, and the partners named. -/
theorem Constraints.ofRules_of_named (h : ∀ rule ∈ rules, ¬ rule.Misnames field) :
    ofRules (some field) rules = .ok ⟨rules.any FieldRule.isRequired, partnersNamed rules⟩ := by
  have hgiven : ∀ rule ∈ rules.filter FieldRule.namesPartner,
      ∃ partner, rule.partner (some field) = .ok partner := by
    intro rule hrule
    obtain ⟨hmem, hnames⟩ := List.mem_filter.mp hrule
    simpa [FieldRule.misnames_iff hnames] using h rule hmem
  obtain ⟨partners, hpartners⟩ := exists_mapM_eq_ok hgiven
  have hnamed : partnersNamed rules = partners :=
    filterMap_eq_of_forall₂ ((mapM_eq_ok_iff.mp hpartners).imp
      fun _ _ => FieldRule.ofValue?_of_partner)
  unfold ofRules
  rw [hpartners, hnamed]
  rfl

end Constraints

/-! ## What is asked for -/

/-- Partners are asked for up to the first that is present, in their order: all of them, if none
is. -/
structure AsksUpToFirst (present : FieldId → Bool) (partners asked : List FieldId) : Prop where
  all : (∀ partner ∈ partners, present partner = false) → asked = partners
  upTo : ∀ before partner after, partners = before ++ partner :: after →
    (∀ other ∈ before, present other = false) → present partner = true →
      asked = before ++ [partner]

namespace Requirement

variable {wording : Wording} {field : FieldId} {rules : List FieldRule} {present : FieldId → Bool}

/-- Asking whether any of some fields is present ends with the first that is. -/
theorem run_anyM_answerNoting (present : FieldId → Bool) (fields asked : List FieldId) :
    (fields.anyM (answerNoting present)).run asked =
      pure (fields.any present, asked ++ (fields.takeWhile (!present ·) ++
        (fields.dropWhile (!present ·)).take 1)) := by
  induction fields generalizing asked with
  | nil => simp [List.anyM]
  | cons field rest ih =>
    rw [List.anyM]
    cases h : present field <;> simp [answerNoting, h, ih]

/-- Making the requirement of rules comes to what their constraints come to, and asks for what
these ask for. -/
theorem inquiry_eq (wording : Wording) (field : FieldId) (rules : List FieldRule)
    (present : FieldId → Bool) :
    inquiry wording field rules present =
      (ofRules wording field rules present,
        match Constraints.ofRules (some field) rules with
        | .error _ => []
        | .ok constraints => asked field constraints present) := by
  unfold inquiry inquire ofRules
  cases Constraints.ofRules (some field) rules with
  | error defect => rfl
  | ok constraints =>
    show Prod.map (fun told => Except.ok (Requirement.mk field constraints (present field) told)) id
      ((constraints.partners.anyM (answerNoting present)).run [field]) = _
    rw [run_anyM_answerNoting]
    rfl

theorem asksUpToFirst (present : FieldId → Bool) (partners : List FieldId) :
    AsksUpToFirst present partners (partners.takeWhile (!present ·) ++
      (partners.dropWhile (!present ·)).take 1) where
  all hnone := by
    have habsent : ∀ partner ∈ partners, (!present partner) = true := by simpa using hnone
    have hdrop : partners.dropWhile (!present ·) = [] :=
      List.dropWhile_eq_nil_iff.mpr habsent
    rw [hdrop, List.take_nil, List.append_nil]
    exact List.takeWhile_eq_self_iff.mpr habsent
  upTo before partner after hsplit hbefore hpresent := by
    have habsent : ∀ other ∈ before, (!present other) = true := by simpa using hbefore
    rw [hsplit, List.takeWhile_append_of_pos habsent, List.dropWhile_append_of_pos habsent]
    simp [hpresent]

/-! ## The table -/

/-- What presence is resolved to, by whether the field is there, whether a partner is, whether the
field is required, and whether it has partners. -/
inductive Resolves (fieldThere partnerThere required hasPartners : Prop) :
    RequirementOutcome → Prop where
  | both : fieldThere → partnerThere →
      Resolves fieldThere partnerThere required hasPartners .mutuallyExclusiveConflict
  | fieldAlone : fieldThere → ¬ partnerThere →
      Resolves fieldThere partnerThere required hasPartners .valid
  | missing : ¬ fieldThere → required →
      Resolves fieldThere partnerThere required hasPartners .missingRequired
  | neither : ¬ fieldThere → ¬ required → hasPartners → ¬ partnerThere →
      Resolves fieldThere partnerThere required hasPartners .missingWithoutAlternative
  | partnerInstead : ¬ fieldThere → ¬ required → partnerThere →
      Resolves fieldThere partnerThere required hasPartners .valid
  | notAsked : ¬ fieldThere → ¬ required → ¬ hasPartners →
      Resolves fieldThere partnerThere required hasPartners .valid

variable {r : Requirement} {outcome : RequirementOutcome}

/-- A requirement is resolved by the table. -/
theorem outcome_eq_iff_resolves :
    r.outcome = outcome ↔
      Resolves (r.fieldPresent = true) (r.partnerPresent = true) (r.constraints.required = true)
        (r.constraints.partners ≠ []) outcome := by
  unfold Requirement.outcome
  constructor
  · rintro rfl
    split
    · next hfield =>
      split
      · next hpartner => exact .both hfield hpartner
      · next hpartner => exact .fieldAlone hfield hpartner
    · next hfield =>
      split
      · next hrequired => exact .missing hfield hrequired
      · next hrequired =>
        by_cases hpartner : r.partnerPresent = true
        · rw [if_neg (by simp [hpartner])]
          exact .partnerInstead hfield hrequired hpartner
        · by_cases hpartners : r.constraints.partners = []
          · rw [if_neg (by simp [hpartners])]
            exact .notAsked hfield hrequired (not_not.mpr hpartners)
          · rw [if_pos (by simp [hpartner, hpartners])]
            exact .neither hfield hrequired hpartners hpartner
  · intro h
    cases h <;> simp_all

/-- Rules that misname no partner have some where one of them names any. -/
theorem partnersNamed_ne_nil_iff (h : ∀ rule ∈ rules, ¬ rule.Misnames field) :
    partnersNamed rules ≠ [] ↔ ∃ rule ∈ rules, rule.namesPartner = true := by
  constructor
  · intro hne
    obtain ⟨partner, hpartner⟩ := List.exists_mem_of_ne_nil _ hne
    obtain ⟨rule, hrule, -⟩ := List.mem_filterMap.mp hpartner
    exact ⟨rule, List.mem_filter.mp hrule⟩
  · rintro ⟨rule, hrule, hnames⟩
    have hgiven := mt (FieldRule.misnames_iff hnames).mpr (h rule hrule)
    obtain ⟨partner, hpartner⟩ := not_forall_not.mp hgiven
    exact List.ne_nil_of_mem (List.mem_filterMap.mpr
      ⟨rule, List.mem_filter.mpr ⟨hrule, hnames⟩, FieldRule.ofValue?_of_partner hpartner⟩)

/-! ## What is settled -/

/-- What a requirement settles about the presence of a field. The outcome is that of the table; it
is an error unless it is valid, and the error carries the outcome and the field, or is the fault of
the catalog where that has no text for the outcome; and where it is valid, it is the absent field
that is left at that. -/
structure SettlesPresence (field : FieldId) (rules : List FieldRule) (present : FieldId → Bool)
    (r : Requirement) : Prop where
  resolves : ∀ outcome, r.outcome = outcome ↔
    Resolves (present field = true) (∃ partner ∈ partnersNamed rules, present partner = true)
      (∃ rule ∈ rules, rule.isRequired = true) (∃ rule ∈ rules, rule.namesPartner = true) outcome
  passes : ∀ wording, r.validate wording = .ok () ↔ r.outcome = .valid
  refuses : ∀ (wording : Wording) (phrase : Phrase), r.outcome.phrase? = some phrase →
    (wording.Tells phrase phrase.arity → ∃ text, r.validate wording =
      .error (.input (.ofKind (.requirement r.outcome) text (some field)))) ∧
    (¬ wording.Tells phrase phrase.arity → ∃ fault, r.validate wording = .error (.catalog fault))
  skips : ∀ wording, r.validate wording = .ok () →
    (r.skipsValueRules = true ↔ present field = false)

theorem validate_eq_ok_iff_valid : r.validate wording = .ok () ↔ r.outcome = .valid := by
  have hnone : r.refusal? wording = .ok none ↔ r.outcome = .valid := refusal?_eq_none_iff
  rw [← hnone]
  unfold validate
  cases r.refusal? wording with
  | error failure => exact ⟨nofun, nofun⟩
  | ok refusal =>
    cases refusal with
    | none => exact ⟨fun _ => rfl, fun _ => rfl⟩
    | some error => exact ⟨nofun, nofun⟩

/-- Rules that misname no partner settle presence by the table. -/
theorem settlesPresence (h : ∀ rule ∈ rules, ¬ rule.Misnames field) :
    SettlesPresence field rules present
      (ofConstraints field ⟨rules.any FieldRule.isRequired, partnersNamed rules⟩ present) where
  resolves outcome := by
    rw [outcome_eq_iff_resolves, ← partnersNamed_ne_nil_iff h]
    simp only [ofConstraints, List.any_eq_true]
  passes wording := validate_eq_ok_iff_valid
  refuses wording phrase hphrase := by
    constructor
    · intro htells
      obtain ⟨text, hrefusal⟩ := refusal?_of_tells hphrase htells
      exact ⟨text, by rw [validate, hrefusal]; rfl⟩
    · intro htells
      obtain ⟨fault, hrefusal⟩ := refusal?_of_not_tells hphrase htells
      exact ⟨fault, by rw [validate, hrefusal]; rfl⟩
  skips wording hpass := by
    rw [skipsValueRules_of_valid (validate_eq_ok_iff_valid.mp hpass), Bool.not_eq_true']
    rfl

/-- Making the requirement of the rules of a field. Rules that misname a partner fail before
anything is asked: as a defect of the configuration, or with the fault of the catalog where that has
no text for the defect. Any others ask for the field and then for its partners up to the first that
is present, and settle its presence by the table. -/
theorem inquiry_settles (wording : Wording) (field : FieldId) (rules : List FieldRule)
    (present : FieldId → Bool) :
    ((∃ rule ∈ rules, rule.Misnames field) →
      ∃ defect : PartnerDefect,
        (wording.Tells defect.phrase 0 → ∃ message,
          inquiry wording field rules present = (.error (.misconfigured message), [])) ∧
        (¬ wording.Tells defect.phrase 0 → ∃ fault,
          inquiry wording field rules present = (.error (.catalog fault), []))) ∧
    ((∀ rule ∈ rules, ¬ rule.Misnames field) →
      ∃ r partners, inquiry wording field rules present = (.ok r, field :: partners) ∧
        AsksUpToFirst present (partnersNamed rules) partners ∧
        SettlesPresence field rules present r) := by
  constructor
  · intro h
    obtain ⟨defect, hdefect⟩ := Constraints.exists_defect h
    have hinquiry : inquiry wording field rules present = (defect.tell wording, []) := by
      simp only [inquiry_eq, ofRules, hdefect]
    refine ⟨defect, fun htells => ?_, fun htells => ?_⟩
    · obtain ⟨message, htell⟩ := PartnerDefect.tell_of_tells htells
      exact ⟨message, by rw [hinquiry, htell]⟩
    · obtain ⟨fault, htell⟩ := PartnerDefect.tell_of_not_tells htells
      exact ⟨fault, by rw [hinquiry, htell]⟩
  · intro h
    refine ⟨_, _, ?_, asksUpToFirst present (partnersNamed rules), settlesPresence h⟩
    simp only [inquiry_eq, ofRules, Constraints.ofRules_of_named h, asked]

/-- Rules that name the field itself ask for nothing. Of two partners the first is asked for, and if
it is present not the second, and then the field may be left out. -/
theorem inquiry_settles_partners :
    let partner (name : Text) : FieldRule := .named ⟨"requiredWithout", .text name, none⟩
    let inquiry := inquiry (.bundled Phrase.bundledLanguage) (.name "a")
    (∃ message, inquiry [partner "b", partner "a"] (fun _ => true) =
      (.error (.misconfigured message), [])) ∧
    ∃ r, inquiry [partner "b", partner "c"] (· = .name "b") = (.ok r, [.name "a", .name "b"]) ∧
      r.outcome = .valid ∧ r.skipsValueRules = true := by
  intro partner inquiry
  have hnames (name : Text) : (partner name).namesPartner = true := by
    show decide (Text.toLower (Text.ofString "requiredWithout") = requiredWithoutName) = true
    decide +kernel
  have hoptional (name : Text) : (partner name).isRequired = false := by
    show decide (Text.toLower (Text.ofString "requiredWithout") = requiredName) = false
    decide +kernel
  constructor
  · obtain ⟨defect, htold, -⟩ :=
      (inquiry_settles (.bundled Phrase.bundledLanguage) (.name "a") [partner "b", partner "a"]
        fun _ => true).1 ⟨partner "a", by simp, hnames "a", .inr rfl⟩
    have htells : (Wording.bundled Phrase.bundledLanguage).Tells defect.phrase 0 := by
      cases defect with
      | noField => exact Wording.bundled_tells .requiredWithoutRequiresFieldName
      | itself => exact Wording.bundled_tells .requiredWithoutCannotReferenceItself
    exact htold htells
  · have hnamed : ∀ rule ∈ [partner "b", partner "c"], ¬ rule.Misnames (.name "a") := by
      simp only [List.forall_mem_cons, FieldRule.misnames_iff (hnames _)]
      exact ⟨fun h => h (.name "b") rfl, fun h => h (.name "c") rfl, nofun⟩
    have hpartners : partnersNamed [partner "b", partner "c"] = [.name "b", .name "c"] := by
      simp only [partnersNamed, List.filter_cons, hnames, if_true]
      rfl
    obtain ⟨r, partners, hinquiry, hasks, hsettles⟩ :=
      (inquiry_settles (.bundled Phrase.bundledLanguage) (.name "a") [partner "b", partner "c"]
        (· = .name "b")).2 hnamed
    obtain rfl := hasks.upTo [] (.name "b") [.name "c"] hpartners (by simp) (by simp)
    have hvalid : r.outcome = .valid := by
      refine (hsettles.resolves .valid).mpr (.partnerInstead (by decide) ?_ ?_)
      · simp [hoptional]
      · exact ⟨.name "b", by rw [hpartners]; exact List.mem_cons_self .., by simp⟩
    have hpass := (hsettles.passes (.bundled Phrase.bundledLanguage)).mpr hvalid
    exact ⟨r, hinquiry, hvalid, (hsettles.skips _ hpass).mpr rfl⟩

/-- In German, of which the catalog has no texts, naming the field itself is not told to be a defect
of the configuration. -/
theorem not_inquiry_misconfigured_untold :
    ¬ ∀ (wording : Wording) (field : FieldId) (rules : List FieldRule) (present : FieldId → Bool),
      (∃ rule ∈ rules, rule.Misnames field) →
        ∃ message, inquiry wording field rules present = (.error (.misconfigured message), []) := by
  intro h
  let itself : FieldRule := .named ⟨requiredWithoutName, .text "a", none⟩
  have hnames : itself.namesPartner = true := by
    show decide (Text.toLower requiredWithoutName = requiredWithoutName) = true
    decide +kernel
  have hmisnames : ∃ rule ∈ [itself], rule.Misnames (.name "a") :=
    ⟨itself, List.mem_singleton_self _, hnames, .inr rfl⟩
  obtain ⟨message, hinquiry⟩ := h (.bundled "de") (.name "a") [itself] (fun _ => false) hmisnames
  obtain ⟨defect, hdefect⟩ := Constraints.exists_defect hmisnames
  have hlanguage : Text.ofString "de" ≠ Phrase.bundledLanguage := by decide
  obtain ⟨fault, htell⟩ := PartnerDefect.tell_of_not_tells (α := Requirement)
    (Wording.bundled_not_tells hlanguage defect.phrase 0)
  simp only [inquiry_eq, ofRules, hdefect, htell] at hinquiry
  cases hinquiry

end Requirement

end FieldValidation
