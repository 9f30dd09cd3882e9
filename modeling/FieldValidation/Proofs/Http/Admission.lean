import FieldValidation.Proofs.Http.Guard
import FieldValidation.Proofs.Validator.Passing

/-!
# Who is admitted, whatever the texts

The texts of an application and the language of the catalog are settings that are changed without a
thought for what is let through. That is safe: whether a validator can be made, whether it lets a
dataset pass, and whether the handler of a guarded request is run and on what, is the same under
all of them. In a language without texts a refusal cannot be told, so the request fails instead of
being refused; it is not admitted for that.

## Main definitions

* `TextSettings.handled`: the datasets that the handler of a guarded request is given

## Main results

* `Guard.handled_exchange`: the handler is given just the dataset that passes
* `TextSettings.same_admission`: what is admitted is the same under all settings of texts
-/

namespace FieldValidation

/-- The handler of a guarded request is given the dataset that was taken out of it and passes, or
it is not run. -/
theorem Guard.handled_exchange (guard : Guard) (wording : Wording) (handler : Handler)
    (request : Request) :
    (∃ dataset, extract guard.part request = .dataset dataset ∧
      (guard.validator.validate wording dataset).result = .ok () ∧
      (guard.exchange wording handler request).handled = [dataset]) ∨
    (∀ dataset, extract guard.part request = .dataset dataset →
      (guard.validator.validate wording dataset).result ≠ .ok ()) ∧
      (guard.exchange wording handler request).handled = [] := by
  cases hextract : extract guard.part request with
  | notJson reason => exact .inr ⟨nofun, by rw [exchange_of_notJson hextract]⟩
  | scalar => exact .inr ⟨nofun, by rw [exchange_of_scalar hextract]⟩
  | failed failure => exact .inr ⟨nofun, by rw [exchange_of_unread hextract]⟩
  | dataset dataset =>
    cases hresult : (guard.validator.validate wording dataset).result with
    | ok _ => exact .inl ⟨dataset, rfl, hresult, by rw [exchange_of_passed hextract hresult]⟩
    | error failure =>
      refine .inr ⟨?_, ?_⟩
      · rintro other hother hpass
        obtain rfl := Extracted.dataset.inj hother
        rw [hresult] at hpass
        cases hpass
      · rcases result_cases (guard.validator.validate wording dataset).result with
          hpass | ⟨error, hrefused⟩ | ⟨other, hfailed, hrefusal⟩
        · rw [hresult] at hpass
          cases hpass
        · rw [exchange_of_refused hextract hrefused]
        · rw [exchange_of_failed hextract hfailed hrefusal]

namespace TextSettings

/-- The datasets that the handler of a request is given behind the guard that declarations make, one
for each time it is run. Where they make none there is no route to it. -/
def handled (texts : TextSettings) (registry : Registry) (declarations : Declarations)
    (part : RequestPart) (handler : Handler) (request : Request) : List Value :=
  match Validator.ofDeclarations texts.construction registry texts.messages declarations with
  | .ok v => ((Guard.mk part v).exchange texts.wording handler request).handled
  | .error _ => []

variable (texts texts' : TextSettings) (registry : Registry) (declarations : Declarations)

/-- The handler is given the dataset that was taken out of the request, where that passes. -/
theorem handled_cases (part : RequestPart) (handler : Handler) (request : Request) :
    (∃ dataset, extract part request = .dataset dataset ∧
      texts.Pass registry declarations dataset ∧
      texts.handled registry declarations part handler request = [dataset]) ∨
    (∀ dataset, extract part request = .dataset dataset →
      ¬ texts.Pass registry declarations dataset) ∧
      texts.handled registry declarations part handler request = [] := by
  unfold handled Pass
  cases Validator.ofDeclarations texts.construction registry texts.messages declarations with
  | error failure =>
    refine .inr ⟨fun _ _ => ?_, rfl⟩
    rintro ⟨v, hv, -⟩
    cases hv
  | ok v =>
    rcases (Guard.mk part v).handled_exchange texts.wording handler request with
      ⟨dataset, hextract, hpass, hhandled⟩ | ⟨hpass, hhandled⟩
    · exact .inl ⟨dataset, hextract, ⟨v, rfl, hpass⟩, hhandled⟩
    · refine .inr ⟨fun dataset hextract => ?_, hhandled⟩
      rintro ⟨v', hv', hpass'⟩
      obtain rfl := Except.ok.inj hv'
      exact hpass dataset hextract hpass'

variable {texts texts'} {registry declarations}

/-- Where the same datasets pass, the handler is given the same. -/
theorem handled_congr
    (hpass : ∀ dataset, texts.Pass registry declarations dataset ↔
      texts'.Pass registry declarations dataset)
    (part : RequestPart) (handler : Handler) (request : Request) :
    texts.handled registry declarations part handler request =
      texts'.handled registry declarations part handler request := by
  rcases texts.handled_cases registry declarations part handler request with
    ⟨dataset, hextract, hdataset, hhandled⟩ | ⟨hnone, hhandled⟩ <;>
  rcases texts'.handled_cases registry declarations part handler request with
    ⟨dataset', hextract', hdataset', hhandled'⟩ | ⟨hnone', hhandled'⟩ <;>
  rw [hhandled, hhandled']
  · obtain rfl := Extracted.dataset.inj (hextract.symm.trans hextract')
    rfl
  · exact absurd ((hpass dataset).mp hdataset) (hnone' dataset hextract)
  · exact absurd ((hpass dataset').mpr hdataset') (hnone dataset' hextract')

/-- **Texts never admit anything.** Take any two settings of texts: any two maps of messages of the
application, any two catalogs, and any two languages, those that the catalog has no text in among
them, at the time when a validator is made and when it is used. Declarations make a validator under
the one where they do under the other, a dataset passes under the one where it does under the
other, and the handler of a guarded request is given the same datasets, so it is run under the one
where it is under the other. -/
theorem same_admission (texts texts' : TextSettings) (registry : Registry)
    (declarations : Declarations) :
    ((∃ v, Validator.ofDeclarations texts.construction registry texts.messages declarations =
        .ok v) ↔
      ∃ v, Validator.ofDeclarations texts'.construction registry texts'.messages declarations =
        .ok v) ∧
    (∀ dataset, texts.Pass registry declarations dataset ↔
      texts'.Pass registry declarations dataset) ∧
    ∀ part handler request,
      texts.handled registry declarations part handler request =
        texts'.handled registry declarations part handler request := by
  have hpass (dataset : Value) : texts.Pass registry declarations dataset ↔
      texts'.Pass registry declarations dataset :=
    pass_iff.trans pass_iff.symm
  exact ⟨exists_ofDeclarations_iff.trans exists_ofDeclarations_iff.symm, hpass,
    handled_congr hpass⟩

end TextSettings

end FieldValidation
