import FieldValidation.Proofs.Validator.Compilation
import FieldValidation.Proofs.Validator.Fields
import FieldValidation.Validator.Session

/-!
# A validator in use

Whatever an application does to its declarations, a validator keeps the rules it was made with, and
the texts for the violations of them. The messages are shared with the application, and the text
for a refusal of presence is looked up there when it is told. So a validation answers as one by a
validator newly made from what was declared at first, unless it refuses the presence of a field for
which there is another text by then.

## Main definitions

* `Validator.Refuses`: a validation refuses the presence of a field
* `Session.Change.Touches`: a change of the text for a field and a rule

## Main results

* `Session.validator_after`: of the validator only the messages change
* `Session.findMessage_after`: a text stays what it is unless it is touched
* `Session.answer_after`: validations answer as by a new validator, but for changed texts
-/

namespace FieldValidation

/-! ## Texts under other keys -/

section Messages

variable {messages : Entries Text} {field rule key : Text}

theorem findMessage_cons (entry : Text × Text) (rest : Entries Text) :
    findMessage (entry :: rest) field rule =
      if isMessageKey field rule entry.1 then some entry.2 else findMessage rest field rule := by
  obtain ⟨key, text⟩ := entry
  unfold findMessage
  rw [List.find?_cons]
  cases hkey : isMessageKey field rule key <;> simp [hkey]

theorem findMessage_replace (text : Text) (h : isMessageKey field rule key = false) :
    findMessage (Entries.replace messages key text) field rule =
      findMessage messages field rule := by
  induction messages with
  | nil => rfl
  | cons entry rest ih =>
    obtain ⟨k, t⟩ := entry
    show findMessage ((if k = key then (k, text) else (k, t)) :: Entries.replace rest key text)
      field rule = _
    rw [findMessage_cons, findMessage_cons, ih]
    by_cases hk : k = key
    · simp [hk, h]
    · simp [hk]

theorem findMessage_insertNew (text : Text) (h : isMessageKey field rule key = false) :
    findMessage (Entries.insertNew messages key text) field rule =
      findMessage messages field rule := by
  induction messages with
  | nil => simp [Entries.insertNew, findMessage_cons, h]
  | cons entry rest ih =>
    obtain ⟨k, t⟩ := entry
    unfold Entries.insertNew
    split
    · simp [findMessage_cons, h]
    · simp only [findMessage_cons, ih]

/-- Putting a text under a key of another field or rule leaves the text that is found. -/
theorem findMessage_put (text : Text) (h : isMessageKey field rule key = false) :
    findMessage (Entries.put messages key text) field rule = findMessage messages field rule := by
  unfold Entries.put
  split
  · exact findMessage_replace text h
  · exact findMessage_insertNew text h

/-- Removing such a key leaves it as well. -/
theorem findMessage_erase (h : isMessageKey field rule key = false) :
    findMessage (Entries.erase messages key) field rule = findMessage messages field rule := by
  induction messages with
  | nil => rfl
  | cons entry rest ih =>
    unfold Entries.erase at ih ⊢
    rw [List.filter_cons, findMessage_cons, ← ih]
    by_cases hkey : entry.1 = key
    · simp [hkey, h]
    · simp [hkey, findMessage_cons]

end Messages

/-! ## Making a validator -/

namespace Validator

variable {wording : Wording} {registry : Registry} {messages : Entries Text}
  {declarations : Declarations} {v : Validator}

/-- What makes a validator makes the same one in any wording. -/
theorem ofDeclarations_of_ok (h : ofDeclarations wording registry messages declarations = .ok v)
    (wording' : Wording) : ofDeclarations wording' registry messages declarations = .ok v := by
  obtain ⟨fields, hcompile, hv⟩ := ofDeclarations_eq_ok_iff.mp h
  exact ofDeclarations_eq_ok_iff.mpr ⟨fields, compile_of_ok hcompile wording', hv⟩

theorem messages_of_ofDeclarations
    (h : ofDeclarations wording registry messages declarations = .ok v) :
    v.messages = messages := by
  obtain ⟨_, -, rfl⟩ := ofDeclarations_eq_ok_iff.mp h
  rfl

/-! ## Where the messages are looked up -/

variable {dataset : Value}

/-- The presence of a field is not as required, which is reported under a rule. -/
def RefusesPresence (wording : Wording) (dataset : Value) (entry : Text × List FieldRule)
    (rule : Text) : Prop :=
  ∃ r, Requirement.ofRules wording entry.1 entry.2 dataset.hasField = .ok r ∧
    r.outcome ≠ .valid ∧ rule = requirementRule r.outcome

/-- The check of a field looks at the messages only where it refuses presence. -/
theorem checkField_of_messages {entry : Text × List FieldRule}
    (h : ∀ rule, RefusesPresence wording dataset entry rule →
      findMessage messages entry.1 rule = findMessage v.messages entry.1 rule) :
    { v with messages := messages }.checkField wording dataset entry.1 entry.2 =
      v.checkField wording dataset entry.1 entry.2 := by
  have hcheck := v.checkField_fieldCheck wording dataset entry.1 entry.2
  generalize v.checkField wording dataset entry.1 entry.2 = check at hcheck ⊢
  cases hcheck with
  | defective hrules => exact (FieldCheck.defective hrules).checkField_eq
  | wordless hrules hrefusal => exact (FieldCheck.wordless hrules hrefusal).checkField_eq
  | refused hrules hrefusal =>
    rw [(FieldCheck.refused hrules hrefusal).checkField_eq]
    have hinvalid := mt Requirement.refusal?_eq_none_iff.mpr
      (fun hnone => by rw [hnone] at hrefusal; cases hrefusal)
    simp only [requirementFailure, h _ ⟨_, hrules, hinvalid, rfl⟩]
  | absent hrules hvalid hlookup =>
    exact (FieldCheck.absent hrules hvalid hlookup).checkField_eq
  | null hrules hvalid hlookup hnull =>
    exact (FieldCheck.null hrules hvalid hlookup hnull).checkField_eq
  | ran hrules hvalid hlookup hnull =>
    exact (FieldCheck.ran hrules hvalid hlookup hnull).checkField_eq

end Validator

namespace Session.Call

/-- The wording of a validation. -/
def wording : Call → Wording
  | .validate wording _ | .validateAll wording _ => wording

/-- The dataset that is validated. -/
def dataset : Call → Value
  | .validate _ dataset | .validateAll _ dataset => dataset

end Session.Call

namespace Validator

variable {v : Validator} {messages : Entries Text}

/-- A validation comes upon a field whose presence is to be refused under a rule. -/
def Refuses (v : Validator) (call : Session.Call) (field rule : Text) : Prop :=
  ∃ rules, (field, rules) ∈ v.fields ∧
    RefusesPresence call.wording call.dataset (field, rules) rule

/-- A validation looks only at the messages for the presences that it refuses. -/
theorem answer_of_messages {call : Session.Call}
    (h : ∀ field rule, v.Refuses call field rule →
      findMessage messages field rule = findMessage v.messages field rule) :
    { v with messages := messages }.answer call = v.answer call := by
  have hcheck : ∀ entry ∈ v.fields,
      { v with messages := messages }.checkField call.wording call.dataset entry.1 entry.2 =
        v.checkField call.wording call.dataset entry.1 entry.2 :=
    fun entry hentry => checkField_of_messages fun rule hrule => h _ _ ⟨entry.2, hentry, hrule⟩
  cases call with
  | validate wording dataset =>
    have hfirst := firstFailureOf_congr hcheck
    dsimp only [Session.Call.wording, Session.Call.dataset] at hfirst
    simp only [answer, validate, firstFailure, hfirst]
  | validateAll wording dataset =>
    have hall := failuresOf_congr hcheck
    dsimp only [Session.Call.wording, Session.Call.dataset] at hall
    simp only [answer, validateAll, failures, hall]

end Validator

/-! ## Sessions -/

namespace Session

variable {s : Session} {field rule : Text}

/-- Whether a change sets or removes a text for the failure of a field by a rule. -/
def Change.Touches (field rule : Text) : Change → Prop
  | .setMessage key _ | .deleteMessage key => isMessageKey field rule key = true
  | .setRules .. | .pushRule .. => False

theorem ofDeclarations_of_start {construction : Wording} {registry : Registry}
    {messages : Entries Text} {declarations : Declarations}
    (h : start construction registry messages declarations = .ok s) :
    Validator.ofDeclarations construction registry messages declarations = .ok s.validator := by
  unfold start at h
  cases hmade : Validator.ofDeclarations construction registry messages declarations with
  | error failure => rw [hmade] at h; cases h
  | ok v =>
    rw [hmade] at h
    cases h
    rfl

/-- A change leaves the rules of the validator. -/
theorem validator_change (s : Session) (c : Change) :
    (s.change c).validator =
      { s.validator with messages := (s.change c).validator.messages } := by
  cases c <;> rfl

theorem validator_step (s : Session) (step : Step) :
    (s.step step).validator =
      { s.validator with messages := (s.step step).validator.messages } := by
  cases step with
  | change c => exact s.validator_change c
  | call c => rfl

/-- Of the validator only the messages change. -/
theorem validator_after (s : Session) (steps : List Step) :
    (s.after steps).validator =
      { s.validator with messages := (s.after steps).validator.messages } := by
  induction steps generalizing s with
  | nil => rfl
  | cons step rest ih =>
    have hrest := ih (s.step step)
    rw [s.validator_step step] at hrest
    exact hrest

theorem findMessage_change {c : Change} (h : ¬ c.Touches field rule) :
    findMessage (s.change c).validator.messages field rule =
      findMessage s.validator.messages field rule := by
  cases c with
  | setMessage key text => exact findMessage_put text (Bool.eq_false_iff.mpr h)
  | deleteMessage key => exact findMessage_erase (Bool.eq_false_iff.mpr h)
  | setRules | pushRule => rfl

/-- A text stays what it is as long as it is not touched. -/
theorem findMessage_after {steps : List Step}
    (h : ∀ c, .change c ∈ steps → ¬ c.Touches field rule) :
    findMessage (s.after steps).validator.messages field rule =
      findMessage s.validator.messages field rule := by
  induction steps generalizing s with
  | nil => rfl
  | cons step rest ih =>
    refine (ih fun c hc => h c (List.mem_cons_of_mem _ hc)).trans ?_
    cases step with
    | change c => exact findMessage_change (h c List.mem_cons_self)
    | call c => rfl

/-- **A validator is fixed when it is made, but for the texts on presence.** Whatever an
application has done to its declarations and its messages, and however often it has validated,
its validator has the rules, and the texts for their violations, of one newly made from what was
declared at first. A validation answers as by that one, unless it refuses the presence of a field
for which another text is found by then. -/
theorem answer_after {construction : Wording} {registry : Registry} {messages : Entries Text}
    {declarations : Declarations}
    (h : start construction registry messages declarations = .ok s) (steps : List Step)
    (call : Call) :
    ∃ fresh, Validator.ofDeclarations call.wording registry messages declarations = .ok fresh ∧
      (s.after steps).validator =
        { fresh with messages := (s.after steps).validator.messages } ∧
      ((∀ field rule, fresh.Refuses call field rule →
          findMessage (s.after steps).validator.messages field rule =
            findMessage messages field rule) →
        (s.after steps).answer call = fresh.answer call) := by
  have hfresh := ofDeclarations_of_start h
  refine ⟨s.validator, Validator.ofDeclarations_of_ok hfresh _, s.validator_after steps, ?_⟩
  intro hsame
  rw [← Validator.messages_of_ofDeclarations hfresh] at hsame
  rw [answer, s.validator_after steps]
  exact Validator.answer_of_messages hsame

/-- The report of a validation that came to one. -/
def Answer.report? : Answer → Option Report
  | .reported (.ok report) => some report
  | _ => none

/-- The validation of a record without fields, with the one text that it needs. -/
def emptyCall : Call :=
  .validateAll ⟨[Phrase.requiredFieldMissing.catalogUnit], "en"⟩ (.record [])

/-- A name that must be there, in three characters at least. -/
def nameDeclarations : Declarations := [("name", [.text "required", .text "minLength:3"])]

/-- The text for a name that is missing. -/
def nameMessages : Entries Text := [("name.required", "Please choose a name.")]

/-- The text for a name that is too short is changed, and then the rules. -/
def unrelatedSteps : List Step :=
  [.change (.setMessage "name.minLength" "Longer, please."), .call emptyCall,
    .change (.setRules "name" [])]

/-- A missing name is reported as before, whatever becomes of its rules and of the text for one that
is too short. -/
theorem answer_after_missing :
    ∃ s fresh,
      start emptyCall.wording (.standard (.standard 2025)) nameMessages nameDeclarations =
        .ok s ∧
      Validator.ofDeclarations emptyCall.wording (.standard (.standard 2025)) nameMessages
        nameDeclarations = .ok fresh ∧
      (s.after unrelatedSteps).answer emptyCall = fresh.answer emptyCall := by
  cases hs : start emptyCall.wording (.standard (.standard 2025)) nameMessages
      nameDeclarations with
  | error failure =>
    have hsome : (start emptyCall.wording (.standard (.standard 2025)) nameMessages
        nameDeclarations).toOption.isSome = true := by
      decide +kernel
    rw [hs] at hsome
    cases hsome
  | ok s =>
    obtain ⟨fresh, hfresh, -, hanswer⟩ := answer_after hs unrelatedSteps emptyCall
    refine ⟨s, fresh, rfl, hfresh, hanswer ?_⟩
    rintro field rule ⟨rules, -, r, -, -, rfl⟩
    rw [← Validator.messages_of_ofDeclarations (ofDeclarations_of_start hs)]
    apply findMessage_after
    intro c hc
    rcases List.mem_cons.mp hc with hset | hc
    · obtain rfl := Step.change.inj hset
      have hkey : Text.splitLast? messageSeparator "name.minLength" =
          some (Text.ofString "name", Text.ofString "minLength") := by
        decide +kernel
      have hrule : Text.toLower "minLength" ≠
          Text.toLower (Validator.requirementRule r.outcome) := by
        cases r.outcome <;> decide +kernel
      simp [Change.Touches, isMessageKey, hkey, hrule]
    · obtain rfl : c = .setRules "name" [] := by simpa using hc
      exact id

/-- A validator is not fixed when it is made: a missing name is reported in the words that are set
later. -/
theorem not_answer_after :
    ¬ ∀ (construction : Wording) (registry : Registry) (messages : Entries Text)
      (declarations : Declarations) (s : Session) (steps : List Step) (call : Call)
      (fresh : Validator), start construction registry messages declarations = .ok s →
      Validator.ofDeclarations call.wording registry messages declarations = .ok fresh →
      (s.after steps).answer call = fresh.answer call := by
  intro h
  have hlater :
      ((start emptyCall.wording (.standard (.standard 2025)) nameMessages
          nameDeclarations).toOption.bind fun s =>
        ((s.after [.change (.setMessage "name.required" "Changed.")]).answer emptyCall).report?) =
      some ⟨[⟨"name", "required", "REQUIREMENT_FAILED", "Changed."⟩]⟩ := by
    decide +kernel
  have hfirst :
      ((Validator.ofDeclarations emptyCall.wording (.standard (.standard 2025)) nameMessages
          nameDeclarations).toOption.bind fun fresh => (fresh.answer emptyCall).report?) =
      some ⟨[⟨"name", "required", "REQUIREMENT_FAILED", "Please choose a name."⟩]⟩ := by
    decide +kernel
  cases hs : start emptyCall.wording (.standard (.standard 2025)) nameMessages
      nameDeclarations with
  | error failure => rw [hs] at hlater; cases hlater
  | ok s =>
    have hfresh := ofDeclarations_of_start hs
    have hsame := h _ _ _ _ s [.change (.setMessage "name.required" "Changed.")] emptyCall _ hs
      hfresh
    rw [hs] at hlater
    rw [hfresh] at hfirst
    change ((s.after _).answer emptyCall).report? = _ at hlater
    change (s.validator.answer emptyCall).report? = _ at hfirst
    rw [hsame, hfirst] at hlater
    exact absurd hlater (by decide +kernel)

end Session

end FieldValidation
