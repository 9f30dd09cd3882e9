import FieldValidation.Proofs.Message.Telling
import FieldValidation.Proofs.Rule.Declared
import FieldValidation.Proofs.Rule.Parsing
import FieldValidation.Proofs.Text.Recased

/-!
# Rules and their texts

A rule that is read off a text has a trimmed name in lower case without a colon, and a trimmed
parameter or none. Each rule of this kind is read off the text it is written as, whatever blanks
are put around its parts, so writing a rule and reading it again changes nothing: neither the rule
nor what declarations with its text are compiled to. A text has no rule where nothing but blanks
stands before its first colon.

## Main definitions

* `RuleSpec.Canonical`: the rules that are read
* `RuleSpec.nameText`: what stands before the first colon of a text

## Main results

* `RuleSpec.parse?_bare`, `RuleSpec.parse?_colon`, `RuleSpec.parse?_parameter`: a rule is read off
  the texts that spell it
* `RuleSpec.canonical_of_parse?`: what is read is of this kind
* `RuleSpec.parse?_eq_none_iff`: which texts have no rule
* `RuleSpec.parse_written`: reading and writing, and what becomes of declarations
-/

namespace FieldValidation

namespace RuleSpec

/-- A rule as it is read off a text. -/
structure Canonical (spec : RuleSpec) : Prop where
  name_ne_nil : spec.name ≠ []
  trim_name : Text.trim spec.name = spec.name
  toLower_name : Text.toLower spec.name = spec.name
  separator_not_mem : separator ∉ spec.name
  parameter_ne_nil : ∀ parameter ∈ spec.parameter, parameter ≠ []
  trim_parameter : ∀ parameter ∈ spec.parameter, Text.trim parameter = parameter

/-- What stands before the first colon of a text; the whole text if it has none. -/
def nameText (rule : Text) : Text := rule.takeWhile (· ≠ separator)

/-- The texts that spell a rule: its parts with any blanks around them, and where it has no
parameter, with or without the colon. -/
inductive Spelling : RuleSpec → Text → Prop where
  | bare {name before after : Text} (hbefore : before.IsBlank) (hafter : after.IsBlank) :
      Spelling ⟨name, none⟩ (before ++ (name ++ after))
  | colon {name before after blank : Text} (hbefore : before.IsBlank) (hafter : after.IsBlank)
      (hblank : blank.IsBlank) :
      Spelling ⟨name, none⟩ (before ++ (name ++ after) ++ separator :: blank)
  | parameter {name parameter before after before' after' : Text} (hbefore : before.IsBlank)
      (hafter : after.IsBlank) (hbefore' : before'.IsBlank) (hafter' : after'.IsBlank) :
      Spelling ⟨name, some parameter⟩
        (before ++ (name ++ after) ++ separator :: (before' ++ (parameter ++ after')))

/-! ## Reading a spelled rule -/

section Spelled

variable {name parameter before after before' after' : Text}

theorem separator_not_mem_around (hbefore : before.IsBlank) (h : separator ∉ name)
    (hafter : after.IsBlank) : separator ∉ before ++ (name ++ after) := by
  have hunblank : ¬ separator.isBlank = true := by decide
  simp only [List.mem_append, not_or]
  exact ⟨fun hmem => hunblank (hbefore _ hmem), h, fun hmem => hunblank (hafter _ hmem)⟩

/-- A name by itself. -/
theorem parse?_bare (h : Canonical ⟨name, none⟩) (hbefore : before.IsBlank)
    (hafter : after.IsBlank) : parse? (before ++ (name ++ after)) = some ⟨name, none⟩ := by
  have hparts : parts (before ++ (name ++ after)) = (name, none) := by
    simp only [parts, Text.splitFirst?_of_not_mem
      (separator_not_mem_around hbefore h.separator_not_mem hafter),
      Text.trim_around hbefore h.trim_name hafter]
  rw [parse?_of_parts hparts h.name_ne_nil, h.toLower_name]

/-- A name with a colon and nothing after it. -/
theorem parse?_colon (h : Canonical ⟨name, none⟩) (hbefore : before.IsBlank)
    (hafter : after.IsBlank) (hblank : after'.IsBlank) :
    parse? (before ++ (name ++ after) ++ separator :: after') = some ⟨name, none⟩ := by
  have hparts : parts (before ++ (name ++ after) ++ separator :: after') = (name, none) := by
    simp only [parts, Text.splitFirst?_append
      (separator_not_mem_around hbefore h.separator_not_mem hafter),
      Text.trim_around hbefore h.trim_name hafter, Text.trim_eq_nil_iff.mpr hblank, if_true]
  rw [parse?_of_parts hparts h.name_ne_nil, h.toLower_name]

/-- A name and a parameter. -/
theorem parse?_parameter (h : Canonical ⟨name, some parameter⟩) (hbefore : before.IsBlank)
    (hafter : after.IsBlank) (hbefore' : before'.IsBlank) (hafter' : after'.IsBlank) :
    parse? (before ++ (name ++ after) ++ separator :: (before' ++ (parameter ++ after'))) =
      some ⟨name, some parameter⟩ := by
  have hparts : parts (before ++ (name ++ after) ++
      separator :: (before' ++ (parameter ++ after'))) = (name, some parameter) := by
    simp only [parts, Text.splitFirst?_append
      (separator_not_mem_around hbefore h.separator_not_mem hafter),
      Text.trim_around hbefore h.trim_name hafter,
      Text.trim_around hbefore' (h.trim_parameter _ rfl) hafter',
      if_neg (h.parameter_ne_nil _ rfl)]
  rw [parse?_of_parts hparts h.name_ne_nil, h.toLower_name]

/-- A rule is read off the texts that spell it. -/
theorem Canonical.parse?_spelling {spec : RuleSpec} {text : Text} (h : spec.Canonical)
    (hspelling : Spelling spec text) : parse? text = some spec := by
  cases hspelling with
  | bare hbefore hafter => exact parse?_bare h hbefore hafter
  | colon hbefore hafter hblank => exact parse?_colon h hbefore hafter hblank
  | parameter hbefore hafter hbefore' hafter' =>
    exact parse?_parameter h hbefore hafter hbefore' hafter'

/-- The text that a rule is written as spells it. -/
theorem spelling_written (spec : RuleSpec) : Spelling spec spec.written := by
  have hnil : Text.IsBlank [] := nofun
  obtain ⟨name, parameter⟩ := spec
  cases parameter with
  | none =>
    have hspelling : Spelling ⟨name, none⟩ ([] ++ (name ++ [])) := .bare hnil hnil
    simpa [written] using hspelling
  | some parameter =>
    have hspelling : Spelling ⟨name, some parameter⟩
        ([] ++ (name ++ []) ++ separator :: ([] ++ (parameter ++ []))) :=
      .parameter hnil hnil hnil hnil
    simpa [written] using hspelling

end Spelled

/-! ## What is read -/

variable {rule : Text} {spec : RuleSpec}

/-- The parts of a text are what stands before its first colon and after it. -/
theorem parts_fst (rule : Text) : (parts rule).1 = Text.trim (nameText rule) := by
  by_cases hmem : separator ∈ rule
  · obtain ⟨before, after, rfl, hbefore⟩ := List.eq_append_cons_of_mem hmem
    have hpos : ∀ u ∈ before, decide (u ≠ separator) = true :=
      fun u hu => decide_eq_true (ne_of_mem_of_not_mem hu hbefore)
    have hname : nameText (before ++ separator :: after) = before := by
      rw [nameText, List.takeWhile_append_of_pos hpos]
      simp
    simp only [parts, Text.splitFirst?_append hbefore, hname]
  · have hname : nameText rule = rule :=
      List.takeWhile_eq_self_iff.mpr fun u hu => decide_eq_true (ne_of_mem_of_not_mem hu hmem)
    simp only [parts, Text.splitFirst?_of_not_mem hmem, hname]

theorem of_mem_parts_snd {parameter : Text} (h : parameter ∈ (parts rule).2) :
    parameter ≠ [] ∧ Text.trim parameter = parameter := by
  unfold parts at h
  split at h
  · cases h
  · next before after _ =>
    dsimp only at h
    split at h
    · cases h
    · next hne =>
      obtain rfl := Option.some.inj h
      exact ⟨hne, Text.trim_trim after⟩

theorem parse?_eq (rule : Text) :
    parse? rule = if (parts rule).1 = [] then none
      else some ⟨Text.toLower (parts rule).1, (parts rule).2⟩ := rfl

/-- A text has no rule where nothing but blanks stands before its first colon. -/
theorem parse?_eq_none_iff : parse? rule = none ↔ (nameText rule).IsBlank := by
  have hnil : (parts rule).1 = [] ↔ (nameText rule).IsBlank := by
    rw [parts_fst]
    exact Text.trim_eq_nil_iff
  rw [parse?_eq, ← hnil]
  simp

/-- What is read off a text has a trimmed name in lower case without a colon, and a trimmed
parameter or none. -/
theorem canonical_of_parse? (h : parse? rule = some spec) : spec.Canonical := by
  rw [parse?_eq] at h
  split at h
  · cases h
  · next hname =>
    obtain rfl := Option.some.inj h
    rw [parts_fst] at hname ⊢
    refine ⟨mt Text.toLower_eq_nil_iff.mp hname, Text.trim_toLower (Text.trim_trim _),
      Text.toLower_toLower _, ?_, fun _ hp => (of_mem_parts_snd hp).1,
      fun _ hp => (of_mem_parts_snd hp).2⟩
    intro hmem
    have hbefore := Text.mem_of_mem_trim (Text.colon_mem_of_mem_toLower hmem)
    have hne := List.mem_takeWhile_imp hbefore
    simp [separator] at hne

/-! ## Declarations -/

variable {wording : Wording} {messages : Entries Text}

/-- Texts with the same rule are compiled alike. -/
theorem compile_text_congr {rule' : Text} (h : parse? rule = parse? rule') (field : Text) :
    (Definition.text rule).compile wording messages field =
      (Definition.text rule').compile wording messages field := by
  simp only [Definition.compile, h]

/-- Among the declarations of a rule set, a text may be replaced by another with the same rule. -/
theorem compile_congr {rule' : Text} (h : parse? rule = parse? rule') (before after : Declarations)
    (field : Text) (first rest : List Definition) :
    compile wording messages (before ++ (field, first ++ .text rule :: rest) :: after) =
      compile wording messages (before ++ (field, first ++ .text rule' :: rest) :: after) := by
  have htext : (Definition.text rule).compile wording messages field =
      (Definition.text rule').compile wording messages field := compile_text_congr h field
  simp only [compile, List.mapM_append, List.mapM_cons, htext]

/-- A text that no rule is read off is refused, in words or for the want of them. -/
theorem compile_of_parse?_eq_none (h : parse? rule = none) (field : Text) :
    (Definition.text rule).compile wording messages field =
      (do throw (.invalidRule (← wording.say .ruleMustBeNonEmpty []))) := by
  simp only [Definition.compile, h]

/-- Where there is a text for it, a text without a rule is refused as such. -/
theorem compile_eq_invalidRule_iff (htells : wording.Tells .ruleMustBeNonEmpty 0) (field : Text) :
    (∃ message, (Definition.text rule).compile wording messages field =
      .error (.invalidRule message)) ↔ (nameText rule).IsBlank := by
  rw [← parse?_eq_none_iff]
  cases hparse : parse? rule with
  | none =>
    obtain ⟨message, hsay⟩ := htells [] rfl
    rw [compile_of_parse?_eq_none hparse, hsay]
    exact iff_of_true ⟨message, rfl⟩ rfl
  | some spec => simp [Definition.compile, hparse, pure, Except.pure]

/-- Where there is no text for it, the catalog has failed instead. -/
theorem compile_eq_catalog_iff (htells : ¬ wording.Tells .ruleMustBeNonEmpty 0) (field : Text) :
    (∃ fault, (Definition.text rule).compile wording messages field =
      .error (.catalog fault)) ↔ (nameText rule).IsBlank := by
  rw [← parse?_eq_none_iff]
  cases hparse : parse? rule with
  | none =>
    obtain ⟨fault, hsay⟩ := Wording.say_of_not_tells htells (List.length_nil ..)
    rw [compile_of_parse?_eq_none hparse, hsay]
    exact iff_of_true ⟨fault, rfl⟩ rfl
  | some spec => simp [Definition.compile, hparse, pure, Except.pure]

/-- A rule is read off every text that spells it. A text is refused where nothing but blanks
stands before its first colon, as a text without a rule or, where the catalog has no words for
that, with the fault of the catalog; any other has a rule, which is read again off the text that it
is written as, and declarations with the one text or with the other are compiled alike. -/
theorem parse_written (wording : Wording) (messages : Entries Text) :
    (∀ (spec : RuleSpec) (text : Text), spec.Canonical → Spelling spec text →
      parse? text = some spec) ∧
    ∀ rule : Text,
      (∀ field : Text,
        (wording.Tells .ruleMustBeNonEmpty 0 →
          ((∃ message, (Definition.text rule).compile wording messages field =
            .error (.invalidRule message)) ↔ (nameText rule).IsBlank)) ∧
        (¬ wording.Tells .ruleMustBeNonEmpty 0 →
          ((∃ fault, (Definition.text rule).compile wording messages field =
            .error (.catalog fault)) ↔ (nameText rule).IsBlank))) ∧
      (¬ (nameText rule).IsBlank → ∃ spec : RuleSpec,
        parse? rule = some spec ∧ spec.Canonical ∧ parse? spec.written = some spec ∧
        ∀ (before after : Declarations) (field : Text) (first rest : List Definition),
          compile wording messages
              (before ++ (field, first ++ .text spec.written :: rest) :: after) =
            compile wording messages
              (before ++ (field, first ++ .text rule :: rest) :: after)) := by
  refine ⟨fun spec text h => h.parse?_spelling, fun rule => ⟨fun field =>
    ⟨fun htells => compile_eq_invalidRule_iff htells field,
      fun htells => compile_eq_catalog_iff htells field⟩, fun hname => ?_⟩⟩
  obtain ⟨spec, hspec⟩ := Option.ne_none_iff_exists'.mp (mt parse?_eq_none_iff.mp hname)
  have hcanonical := canonical_of_parse? hspec
  have hwritten := hcanonical.parse?_spelling spec.spelling_written
  exact ⟨spec, hspec, hcanonical, hwritten, compile_congr (hwritten.trans hspec.symm)⟩

/-- In the English texts: ` min :3` spells a rule, ` Min : 3:4 ` is read as `min:3:4`, and ` : 3` is
no rule. -/
theorem parse_written_min :
    parse? " min :3" = some ⟨"min", some "3"⟩ ∧
    (∃ spec : RuleSpec, parse? " Min : 3:4 " = some spec ∧ spec.written = "min:3:4" ∧
      parse? "min:3:4" = some spec) ∧
    ∃ message, (Definition.text " : 3").compile (.bundled Phrase.bundledLanguage) [] "a" =
      .error (.invalidRule message) := by
  obtain ⟨hspelled, hread⟩ := parse_written (.bundled Phrase.bundledLanguage) []
  have hcanonical : Canonical ⟨"min", some "3"⟩ :=
    ⟨by decide, by decide +kernel, by decide +kernel, by decide, by decide, by decide +kernel⟩
  have hblank : Text.IsBlank " " := by decide +kernel
  have hnil : Text.IsBlank [] := by decide
  have hspelling : Spelling ⟨"min", some "3"⟩ " min :3" := .parameter hblank hblank hnil hnil
  refine ⟨hspelled _ _ hcanonical hspelling, ?_, ((hread " : 3").1 "a").1
    (Wording.bundled_tells .ruleMustBeNonEmpty) |>.mpr (by decide +kernel)⟩
  obtain ⟨spec, hspec, -, hagain, -⟩ := (hread " Min : 3:4 ").2 (by decide +kernel)
  have hvalue : some spec = some ⟨"min", some "3:4"⟩ := hspec.symm.trans (by decide +kernel)
  obtain rfl := Option.some.inj hvalue
  exact ⟨_, hspec, by decide, hagain⟩

/-- In German, of which the catalog has no texts, a text without a rule is not refused as such. -/
theorem not_compile_blank_untold :
    ¬ ∀ (wording : Wording) (messages : Entries Text) (rule field : Text),
      (∃ message, (Definition.text rule).compile wording messages field =
        .error (.invalidRule message)) ↔ (nameText rule).IsBlank := by
  intro h
  obtain ⟨message, hmessage⟩ := (h (.bundled "de") [] " : 3" "a").mpr (by decide +kernel)
  have hlanguage : Text.ofString "de" ≠ Phrase.bundledLanguage := by decide
  rw [compile_of_parse?_eq_none (by decide +kernel),
    Wording.bundled_say_of_ne hlanguage .ruleMustBeNonEmpty []] at hmessage
  cases hmessage

end RuleSpec

end FieldValidation
