import FieldValidation.Proofs.Sequence.Results
import FieldValidation.RuleSet.Basic

/-!
# What a document declares

A rule set is read off the document that a text is: a mapping with the rules of every field, and
perhaps with the texts of messages. What it declares is said here of the document itself, node by
node, and compared with what is read, whatever the decoder.

Two things are lost or made up on the way. An entry under the reserved key is left out. And an
object that is no mapping, such as a date, is taken for one where a mapping is asked for.

## Main definitions

* `Shape.mapping?`: the entries of a mapping
* `RuleSet.DeclaredIn`: the root of a document declares rules and messages

## Main results

* `RuleSet.ofDocument_eq_ok_iff`: the rule set that is read off a document
* `RuleSet.load_eq_ok_iff`: the rule set that is read off a text
* `RuleSet.exists_defect`: the failure for want of a rule set
-/

namespace FieldValidation

/-- The entries of a mapping; an object of another kind is none. -/
def Shape.mapping? {Node : Type} : Shape Node → Option (Entries Node)
  | .mapping entries => some entries
  | _ => none

namespace RuleSet

variable {α Node : Type} {look : Node → Shape Node} {node root : Node}

/-! ## What a document declares -/

/-- A node is the rules of a field: one text, or a list of texts. -/
inductive DeclaresRules (look : Node → Shape Node) (node : Node) : DeclaredRules → Prop
  | single {rule : Text} (h : look node = .text rule) : DeclaresRules look node (.single rule)
  | several {items : List Node} {rules : List Text} (h : look node = .list items)
      (hitems : List.Forall₂ (fun item rule => look item = .text rule) items rules) :
      DeclaresRules look node (.several rules)

/-- A node is the text of a message. -/
def DeclaresMessage (look : Node → Shape Node) (node : Node) (message : Text) : Prop :=
  look node = .text message

/-- There is an entry for each that is declared, in the same order, and no other. -/
def DeclaresEntries (declares : Node → α → Prop) (entries : Entries Node) (declared : Entries α) :
    Prop :=
  List.Forall₂ (fun entry d => entry.1 = d.1 ∧ declares entry.2 d.2) entries declared

/-- A node, if there is one, is the messages: none where it is nothing. `entriesOf` gives the
entries of a node. -/
inductive DeclaresMessages (look : Node → Shape Node) (entriesOf : Node → Option (Entries Node)) :
    Option Node → Entries Text → Prop
  | absent : DeclaresMessages look entriesOf none []
  | undefined {node : Node} (h : look node = .undefined) :
      DeclaresMessages look entriesOf (some node) []
  | null {node : Node} (h : look node = .null) : DeclaresMessages look entriesOf (some node) []
  | entries {node : Node} {entries : Entries Node} {messages : Entries Text}
      (h : entriesOf node = some entries)
      (hmessages : DeclaresEntries (DeclaresMessage look) entries messages) :
      DeclaresMessages look entriesOf (some node) messages

/-- The root of a document declares rules and messages. -/
def DeclaredIn (look : Node → Shape Node) (entriesOf : Node → Option (Entries Node)) (root : Node)
    (rules : Entries DeclaredRules) (messages : Entries Text) : Prop :=
  ∃ document node entries, entriesOf root = some document ∧
    Entries.find? document "rules" = some node ∧ entriesOf node = some entries ∧
    DeclaresEntries (DeclaresRules look) entries rules ∧
    DeclaresMessages look entriesOf (Entries.find? document "messages") messages

/-! ## What is read off a document -/

theorem text?_eq_some_iff {t : Text} : text? look node = some t ↔ look node = .text t := by
  unfold text?
  cases look node <;> simp

/-- The rules that a node is are read off it. -/
theorem declared?_eq_some_iff {rules : DeclaredRules} :
    declared? look node = some rules ↔ DeclaresRules look node rules := by
  unfold declared?
  constructor
  · intro h
    split at h
    case h_1 hnode =>
      cases h
      exact .single hnode
    case h_2 items hnode =>
      obtain ⟨texts, htexts, rfl⟩ := Option.map_eq_some_iff.mp h
      simp only [mapM_eq_some_iff, text?_eq_some_iff] at htexts
      exact .several hnode htexts
    case h_3 => cases h
  · intro h
    cases h with
    | single hnode => rw [hnode]
    | several hnode hitems =>
      rw [hnode, Option.map_eq_some_iff]
      refine ⟨_, ?_, rfl⟩
      simpa only [mapM_eq_some_iff, text?_eq_some_iff] using hitems

/-- Entries are copied where each is read, and assigned. -/
theorem copied_eq_ok_iff {read : Node → Option α} {declares : Node → α → Prop}
    (hread : ∀ {node a}, read node = some a ↔ declares node a) (defect : Text → RuleSetDefect)
    {entries : Entries Node} {assigned : Entries α} :
    copied read defect entries = .ok assigned ↔
      ∃ declared, DeclaresEntries declares entries declared ∧
        Entries.assigned declared = assigned := by
  have hentry (entry : Text × Node) (d : Text × α) :
      readEntry read defect entry = .ok d ↔ entry.1 = d.1 ∧ declares entry.2 d.2 := by
    rw [← hread, readEntry]
    cases read entry.2 <;> simp [Prod.ext_iff]
  rw [copied, bind_eq_ok_iff]
  refine exists_congr fun declared => and_congr ?_ ⟨Except.ok.inj, congrArg Except.ok⟩
  rw [mapM_eq_ok_iff, DeclaresEntries]
  simp only [hentry]

/-- Messages that may be missing are read off the node that they stand under. -/
theorem optionalMessagesOf_eq_ok_iff {node? : Option Node} {assigned : Entries Text} :
    optionalMessagesOf look node? = .ok assigned ↔
      ∃ messages, DeclaresMessages look (fun node => (look node).entries?) node? messages ∧
        Entries.assigned messages = assigned := by
  cases node? with
  | none =>
    constructor
    · intro h
      cases h
      exact ⟨[], .absent, rfl⟩
    · rintro ⟨_, ⟨⟩, rfl⟩
      rfl
  | some node =>
    rw [optionalMessagesOf]
    constructor
    · intro h
      split at h
      case h_1 hnode =>
        cases h
        exact ⟨[], .undefined hnode, rfl⟩
      case h_2 hnode =>
        cases h
        exact ⟨[], .null hnode, rfl⟩
      case h_3 entries hnode | h_4 entries hnode =>
        obtain ⟨messages, hmessages, hassigned⟩ := (copied_eq_ok_iff text?_eq_some_iff _).mp h
        exact ⟨messages, .entries (by rw [hnode]; rfl) hmessages, hassigned⟩
      case h_5 => cases h
    · rintro ⟨messages, hmessages, rfl⟩
      cases hmessages with
      | undefined hnode | null hnode =>
        rw [hnode]
        rfl
      | @entries _ entries _ hentries hmessages =>
        have hread : messagesOf look entries = .ok (Entries.assigned messages) :=
          (copied_eq_ok_iff text?_eq_some_iff _).mpr ⟨messages, hmessages, rfl⟩
        cases hnode : look node <;> rw [hnode] at hentries <;> cases hentries <;> exact hread

/-- The rule set that is read off a document: what its root declares, an object of any kind being
taken for a mapping, as far as it can be assigned. -/
theorem ofDocument_eq_ok_iff {ruleSet : RuleSet} :
    ofDocument look root = .ok ruleSet ↔
      ∃ rules messages, DeclaredIn look (fun node => (look node).entries?) root rules messages ∧
        ruleSet = ⟨Entries.assigned rules, Entries.assigned messages⟩ := by
  constructor
  · intro h
    unfold ofDocument at h
    cases hdocument : (look root).entries? with
    | none => rw [hdocument] at h; cases h
    | some document =>
      rw [hdocument] at h
      cases hentries : (document.find? "rules").bind fun node => (look node).entries? with
      | none => simp only [hentries] at h; cases h
      | some entries =>
        simp only [hentries] at h
        obtain ⟨node, hnode, hnodeEntries⟩ := Option.bind_eq_some_iff.mp hentries
        obtain ⟨_, hread, h⟩ := bind_eq_ok_iff.mp h
        obtain ⟨_, hoptional, h⟩ := bind_eq_ok_iff.mp h
        obtain ⟨rules, hrules, rfl⟩ := (copied_eq_ok_iff declared?_eq_some_iff _).mp hread
        obtain ⟨messages, hmessages, rfl⟩ := optionalMessagesOf_eq_ok_iff.mp hoptional
        cases h
        exact ⟨rules, messages,
          ⟨document, node, entries, hdocument, hnode, hnodeEntries, hrules, hmessages⟩, rfl⟩
  · rintro ⟨rules, messages, ⟨document, node, entries, hdocument, hnode, hentries, hrules,
      hmessages⟩, rfl⟩
    have hread : rulesOf look entries = .ok (Entries.assigned rules) :=
      (copied_eq_ok_iff declared?_eq_some_iff _).mpr ⟨rules, hrules, rfl⟩
    have hoptional : optionalMessagesOf look (document.find? "messages") =
        .ok (Entries.assigned messages) :=
      optionalMessagesOf_eq_ok_iff.mpr ⟨messages, hmessages, rfl⟩
    simp only [ofDocument, hdocument, hnode, Option.bind_some, hentries, hread, hoptional]
    rfl

/-! ## What is read off a text -/

variable {decoder : Decoder} {wording : Wording} {t : Text}

/-- The rule set that is read off a text: what the document that is decoded declares, an object of
any kind being taken for a mapping, as far as it can be assigned. -/
theorem load_eq_ok_iff {ruleSet : RuleSet} :
    load decoder wording t = .ok ruleSet ↔
      ∃ root rules messages, decoder.decode t = .ok root ∧
        DeclaredIn decoder.look (fun node => (decoder.look node).entries?) root rules messages ∧
        ruleSet = ⟨Entries.assigned rules, Entries.assigned messages⟩ := by
  unfold load
  cases hdecode : decoder.decode t with
  | error fault => cases fault <;> simp
  | ok root => simp [mapError_eq_ok_iff, ofDocument_eq_ok_iff]

/-- The failure for want of a rule set is one of configuration, under its own code, or that of the
catalog where there is no text for it. -/
theorem failure_cases (wording : Wording) (defect : RuleSetDefect) :
    (∃ message, wording.say .rulesetInvalid [defect.reason] = .ok message ∧
      defect.failure wording =
        .configuration message "INVALID_RULESET" defect.documentDefect?) ∨
    ∃ failure, wording.say .rulesetInvalid [defect.reason] = .error failure ∧
      defect.failure wording = failure := by
  rw [RuleSetDefect.failure]
  cases hsay : wording.say .rulesetInvalid [defect.reason] with
  | ok message => exact .inl ⟨message, rfl, rfl⟩
  | error failure => exact .inr ⟨failure, rfl, rfl⟩

/-- What is not read is refused with the failure of some defect, or the decoder failed. -/
theorem exists_defect (h : ∀ ruleSet, load decoder wording t ≠ .ok ruleSet)
    (hdecode : ∀ failure, decoder.decode t ≠ .error (.failed failure)) :
    ∃ defect : RuleSetDefect, load decoder wording t = .error (defect.failure wording) := by
  unfold load at h ⊢
  cases hroot : decoder.decode t with
  | error fault =>
    cases fault with
    | malformed reason message => exact ⟨.malformed reason message, rfl⟩
    | failed failure => exact absurd hroot (hdecode failure)
  | ok root =>
    cases hread : ofDocument decoder.look root with
    | error defect => exact ⟨defect, by simp only [hread]; rfl⟩
    | ok ruleSet => exact absurd (by simp only [hroot, hread]; rfl) (h ruleSet)

end RuleSet

end FieldValidation
