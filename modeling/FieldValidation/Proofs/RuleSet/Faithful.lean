import FieldValidation.Json.Reader
import FieldValidation.Log.Line
import FieldValidation.Proofs.RuleSet.Documents
import FieldValidation.Proofs.Validator.Passing
import FieldValidation.Proofs.Value.Enumeration

/-!
# Texts that are read faithfully

Where nothing in a document is taken for a mapping without being one, and neither the rules nor the
messages have an entry under the reserved key, the rule set read is the rule set declared, entry by
entry and in the same order, whatever the decoder. A validator made from it then enforces every rule
of the document. Under the reserved key a rule is declared and not read, so nothing enforces it; and
a date in place of the rules is read as no rules at all.

## Main definitions

* `RuleSet.DeclaredBy`: a text declares rules and messages
* `RuleSet.isFaithful`: nothing in a text is taken for what it is not, or left out

## Main results

* `Entries.Enumerated.assigned_eq`: what assignments leave out
* `RuleSet.load_eq_ok_iff_declaredBy`: a faithful text is read as what it declares
* `RuleSet.load_declared`: what is read, what is refused, and what is enforced
-/

namespace FieldValidation

namespace Entries

variable {α β : Type} {entries : Entries α} {others : Entries β}

/-- Entries are enumerated by their keys. -/
theorem Enumerated.of_keys_eq (h : Enumerated entries) (hkeys : keys others = keys entries) :
    Enumerated others :=
  ⟨hkeys ▸ h.distinct, hkeys ▸ h.ordered⟩

theorem assigned_eq_ofPairs (pairs : List (Text × α)) :
    assigned pairs = ofPairs (pairs.filter (·.1 ≠ reservedKey)) := by
  rw [assigned, ofPairs, List.foldl_filter]
  congr 1
  funext entries entry
  by_cases hkey : entry.1 = reservedKey <;> simp [assign, hkey]

/-- Assigned again, entries are what they were without the one under the reserved key. -/
theorem Enumerated.assigned_eq (h : Enumerated entries) :
    assigned entries = entries.erase reservedKey := by
  rw [assigned_eq_ofPairs, (h.filter _).ofPairs_eq, erase]

end Entries

namespace RuleSet

/-- A text is a document that declares rules and messages. -/
def DeclaredBy (decoder : Decoder) (t : Text) (rules : Entries DeclaredRules)
    (messages : Entries Text) : Prop :=
  ∃ root, decoder.decode t = .ok root ∧
    DeclaredIn decoder.look (fun node => (decoder.look node).mapping?) root rules messages

/-- Whether a node is not taken for a mapping without being one, and has nothing under the reserved
key. -/
def isFaithfulNode (look : Node → Shape Node) (node : Node) : Bool :=
  match look node with
  | .object _ => false
  | .mapping entries => entries.all fun entry => entry.1 ≠ reservedKey
  | _ => true

/-- The sections of a document in which something is declared. -/
def sections : List Text := ["rules", "messages"]

/-- Whether, in the document that a text is, nothing is taken for a mapping without being one, and
neither the rules nor the messages have an entry under the reserved key. -/
def isFaithful (decoder : Decoder) (t : Text) : Bool :=
  match decoder.decode t with
  | .error _ => true
  | .ok root =>
    match decoder.look root with
    | .object _ => false
    | .mapping document =>
      sections.all fun name => (document.find? name).all (isFaithfulNode decoder.look)
    | _ => true

/-! ## What is taken for a mapping -/

section Nodes

variable {Node : Type} {look : Node → Shape Node} {node root : Node}
  {rules : Entries DeclaredRules} {messages : Entries Text}

theorem entries?_of_faithful (h : isFaithfulNode look node = true) :
    (look node).entries? = (look node).mapping? := by
  unfold isFaithfulNode at h
  cases hnode : look node <;> rw [hnode] at h <;> first | rfl | cases h

/-- A mapping that is faithful has nothing under the reserved key. -/
theorem ne_reservedKey_of_faithful {entries : Entries Node} (h : isFaithfulNode look node = true)
    (hentries : (look node).mapping? = some entries) :
    ∀ entry ∈ entries, entry.1 ≠ reservedKey := by
  unfold isFaithfulNode at h
  cases hnode : look node with
  | mapping own =>
    rw [hnode] at h hentries
    cases hentries
    simpa using h
  | _ => rw [hnode] at hentries; cases hentries

theorem DeclaresMessages.congr {entriesOf entriesOf' : Node → Option (Entries Node)}
    {node? : Option Node} (hsame : ∀ node, node? = some node → entriesOf node = entriesOf' node)
    (h : DeclaresMessages look entriesOf node? messages) :
    DeclaresMessages look entriesOf' node? messages := by
  cases h with
  | absent => exact .absent
  | undefined hnode => exact .undefined hnode
  | null hnode => exact .null hnode
  | entries hentries hmessages => exact .entries (hsame _ rfl ▸ hentries) hmessages

/-- A document declares the same where its root and its sections have the same entries. -/
theorem DeclaredIn.congr {entriesOf entriesOf' : Node → Option (Entries Node)}
    (hroot : entriesOf root = entriesOf' root)
    (hsections : ∀ document, entriesOf root = some document → ∀ name ∈ sections, ∀ node,
      document.find? name = some node → entriesOf node = entriesOf' node)
    (h : DeclaredIn look entriesOf root rules messages) :
    DeclaredIn look entriesOf' root rules messages := by
  obtain ⟨document, node, entries, hdocument, hnode, hentries, hrules, hmessages⟩ := h
  have hsame := hsections document hdocument
  refine ⟨document, node, entries, hroot ▸ hdocument, hnode, ?_, hrules, ?_⟩
  · rw [← hsame "rules" (by simp [sections]) node hnode]
    exact hentries
  · exact hmessages.congr (hsame "messages" (by simp [sections]))

end Nodes

/-! ## Faithful texts -/

variable {decoder : Decoder} {node root : decoder.Node} {wording : Wording} {t : Text}
  {rules : Entries DeclaredRules} {messages : Entries Text}

/-- In a faithful document the root is taken for what it is, and the sections are faithful. -/
theorem faithful_of_decode (hdecode : decoder.decode t = .ok root)
    (h : isFaithful decoder t = true) :
    (decoder.look root).entries? = (decoder.look root).mapping? ∧
      ∀ document, (decoder.look root).mapping? = some document → ∀ name ∈ sections, ∀ node,
        document.find? name = some node → isFaithfulNode decoder.look node = true := by
  unfold isFaithful at h
  rw [hdecode] at h
  dsimp only at h
  cases hroot : decoder.look root with
  | object => rw [hroot] at h; cases h
  | mapping entries =>
    rw [hroot] at h
    refine ⟨rfl, ?_⟩
    rintro _ ⟨⟩ name hname node hnode
    have hsection := List.all_eq_true.mp h name hname
    rw [hnode] at hsection
    exact hsection
  | _ => exact ⟨rfl, nofun⟩

/-- In a faithful document nothing is taken for what it is not. -/
theorem declaredIn_iff_of_faithful (hdecode : decoder.decode t = .ok root)
    (h : isFaithful decoder t = true) :
    DeclaredIn decoder.look (fun node => (decoder.look node).entries?) root rules messages ↔
      DeclaredIn decoder.look (fun node => (decoder.look node).mapping?) root rules messages := by
  obtain ⟨hroot, hsections⟩ := faithful_of_decode hdecode h
  constructor
  · refine DeclaredIn.congr hroot fun document hdocument name hname node hnode => ?_
    exact entries?_of_faithful (hsections document (hroot ▸ hdocument) name hname node hnode)
  · refine DeclaredIn.congr hroot.symm fun document hdocument name hname node hnode => ?_
    exact (entries?_of_faithful (hsections document hdocument name hname node hnode)).symm

/-- What the entries of a faithful node declare is there when it is assigned. -/
theorem assigned_of_faithful {α : Type} {declares : decoder.Node → α → Prop}
    {entries : Entries decoder.Node} {declared : Entries α}
    (h : isFaithfulNode decoder.look node = true)
    (hentries : (decoder.look node).mapping? = some entries)
    (hdeclared : DeclaresEntries declares entries declared) :
    Entries.assigned declared = declared := by
  have hkeys : Entries.keys declared = Entries.keys entries :=
    map_eq_of_forall₂ (fun _ _ hentry => hentry.1.symm) hdeclared
  have henumerated : Entries.Enumerated declared :=
    (decoder.enumerated node entries ((entries?_of_faithful h).trans hentries)).of_keys_eq hkeys
  rw [henumerated.assigned_eq, Entries.erase, List.filter_eq_self]
  intro entry hentry
  obtain ⟨own, hown, hsame, -⟩ := exists_mem_of_forall₂ hdeclared.flip hentry
  rw [← hsame]
  exact decide_eq_true (ne_reservedKey_of_faithful h hentries own hown)

/-- In a faithful document everything that is declared is there when it is assigned. -/
theorem assigned_of_declaredIn (hdecode : decoder.decode t = .ok root)
    (h : isFaithful decoder t = true)
    (hdeclared : DeclaredIn decoder.look (fun node => (decoder.look node).mapping?) root rules
      messages) :
    Entries.assigned rules = rules ∧ Entries.assigned messages = messages := by
  obtain ⟨-, hsections⟩ := faithful_of_decode hdecode h
  obtain ⟨document, node, entries, hdocument, hnode, hentries, hrules, hmessages⟩ := hdeclared
  have hfaithful := hsections document hdocument
  constructor
  · exact assigned_of_faithful (hfaithful "rules" (by simp [sections]) node hnode) hentries hrules
  · cases hmessage : document.find? "messages" with
    | none => rw [hmessage] at hmessages; cases hmessages; rfl
    | some node =>
      rw [hmessage] at hmessages
      cases hmessages with
      | undefined | null => rfl
      | entries hentries hmessages =>
        exact assigned_of_faithful (hfaithful "messages" (by simp [sections]) node hmessage)
          hentries hmessages

/-- A faithful text is read as what it declares, entry by entry and in the same order. -/
theorem load_eq_ok_iff_declaredBy (h : isFaithful decoder t = true) {ruleSet : RuleSet} :
    load decoder wording t = .ok ruleSet ↔
      DeclaredBy decoder t ruleSet.rules ruleSet.messages := by
  rw [load_eq_ok_iff]
  constructor
  · rintro ⟨root, rules, messages, hdecode, hdeclared, rfl⟩
    have hdeclared := (declaredIn_iff_of_faithful hdecode h).mp hdeclared
    obtain ⟨hrules, hmessages⟩ := assigned_of_declaredIn hdecode h hdeclared
    refine ⟨root, hdecode, ?_⟩
    rw [hrules, hmessages]
    exact hdeclared
  · rintro ⟨root, hdecode, hdeclared⟩
    obtain ⟨hrules, hmessages⟩ := assigned_of_declaredIn hdecode h hdeclared
    refine ⟨root, _, _, hdecode, (declaredIn_iff_of_faithful hdecode h).mpr hdeclared, ?_⟩
    rw [hrules, hmessages]

/-- A text in whose document nothing is taken for what it is not, and no entry is under the reserved
key, is read where it declares rules and messages, and the rule set read is exactly these, in the
same order. Any other that is decoded, or that is no document, is refused under the code for that,
or with the failure of the catalog where it has no text for it. The validator that the rule set
makes has the fields of the document, and enforces the definitions of each. -/
theorem load_declared (decoder : Decoder) (wording : Wording) {t : Text}
    (h : isFaithful decoder t = true) :
    (∀ ruleSet, load decoder wording t = .ok ruleSet ↔
      DeclaredBy decoder t ruleSet.rules ruleSet.messages) ∧
    ((∀ failure, decoder.decode t ≠ .error (.failed failure)) →
      (¬ ∃ rules messages, DeclaredBy decoder t rules messages) →
      ∃ defect : RuleSetDefect,
        (∃ message, wording.say .rulesetInvalid [defect.reason] = .ok message ∧
          load decoder wording t =
            .error (.configuration message "INVALID_RULESET" defect.documentDefect?)) ∨
        ∃ failure, wording.say .rulesetInvalid [defect.reason] = .error failure ∧
          load decoder wording t = .error failure) ∧
    ∀ rules messages, DeclaredBy decoder t rules messages → ∀ ruleSet construction registry v,
      load decoder wording t = .ok ruleSet →
      Validator.ofDeclarations construction registry ruleSet.messages ruleSet.declarations = .ok v →
      v.messages = messages ∧ v.fields.map Prod.fst = rules.map Prod.fst ∧
        ∀ entry ∈ rules, v.Enforces entry.1 entry.2.definitions := by
  refine ⟨fun ruleSet => load_eq_ok_iff_declaredBy h, ?refused, ?enforced⟩
  case refused =>
    intro hdecode hnone
    have hload (ruleSet : RuleSet) : load decoder wording t ≠ .ok ruleSet :=
      fun hload => hnone ⟨_, _, (load_eq_ok_iff_declaredBy h).mp hload⟩
    obtain ⟨defect, hdefect⟩ := exists_defect hload hdecode
    refine ⟨defect, ?_⟩
    rw [hdefect]
    rcases failure_cases wording defect with ⟨message, hsay, hfailure⟩ | ⟨failure, hsay, hfailure⟩
    · exact .inl ⟨message, hsay, by rw [hfailure]⟩
    · exact .inr ⟨failure, hsay, by rw [hfailure]⟩
  case enforced =>
    intro rules messages hdeclared ruleSet construction registry v hload hv
    have hsame : load decoder wording t = .ok ⟨rules, messages⟩ :=
      (load_eq_ok_iff_declaredBy h).mpr hdeclared
    obtain rfl := Except.ok.inj (hsame.symm.trans hload)
    obtain ⟨fields, hcompile, rfl⟩ := Validator.ofDeclarations_eq_ok_iff.mp hv
    refine ⟨rfl, ?_, fun entry hentry => ?_⟩
    · rw [fields_of_compile hcompile, declarations, Entries.mapValues, List.map_map]
      rfl
    · exact Validator.enforces_of_mem hv (List.mem_map.mpr ⟨entry, hentry, rfl⟩)

end RuleSet

/-! ## Documents that are JSON -/

/-- What is seen of a value. An upload is an object without entries, as a date is. -/
def Value.shape : Value → Shape Value
  | .undefined => .undefined
  | .null => .null
  | .text t => .text t
  | .list items => .list (items.map (·.getD .undefined))
  | .record entries => .mapping (Entries.ofPairs entries)
  | .map _ | .file _ => .object []
  | _ => .scalar

/-- A decoder whose nodes are values. -/
def Decoder.ofValues (decode : Text → Except DecodeFault Value) : Decoder where
  Node := Value
  decode := decode
  look := Value.shape
  enumerated := by
    intro node entries h
    cases node with
    | record own =>
      cases h
      exact Entries.enumerated_ofPairs own
    | map | file =>
      cases h
      exact Entries.enumerated_ofPairs []
    | _ => cases h

/-- A decoder of the documents that are JSON. -/
def Decoder.json : Decoder :=
  .ofValues fun t =>
    match Json.read? t with
    | some document => .ok document
    | none => .error (.malformed [] parseFault)

namespace RuleSet

/-- A text with the rules of a name and the text for its absence. -/
def nameRules : Text :=
  "\x7b\"rules\": \x7b\"name\": [\"required\", \"minLength:3\"]\x7d, " ++
    "\"messages\": \x7b\"name.required\": \"A name, please.\"\x7d\x7d"

theorem load_declared_nameRules :
    isFaithful .json nameRules = true ∧
      DeclaredBy .json nameRules [("name", .several ["required", "minLength:3"])]
        [("name.required", "A name, please.")] := by
  have hfaithful : isFaithful .json nameRules = true := by decide +kernel
  have hload := (load_declared .json (.bundled Phrase.bundledLanguage) hfaithful).1
    ⟨[("name", .several ["required", "minLength:3"])], [("name.required", "A name, please.")]⟩
  exact ⟨hfaithful, hload.mp (by decide +kernel)⟩

/-- A document with rules under the reserved key. -/
def reservedRules : Value := .record [("rules", .record [("__proto__", .text "required")])]

/-- A document with a date in place of the rules. -/
def datedRules : Value := .record [("rules", .file [])]

/-- Rules under the reserved key are declared, and not read; and a date in place of the rules
declares none, and is read as no rules. -/
theorem not_load_declared :
    (¬ ∀ wording t ruleSet, load (.ofValues fun _ => .ok reservedRules) wording t = .ok ruleSet ↔
      DeclaredBy (.ofValues fun _ => .ok reservedRules) t ruleSet.rules ruleSet.messages) ∧
    ¬ ∀ wording t ruleSet, load (.ofValues fun _ => .ok datedRules) wording t = .ok ruleSet ↔
      DeclaredBy (.ofValues fun _ => .ok datedRules) t ruleSet.rules ruleSet.messages := by
  constructor
  · intro h
    let entries : Entries Value := [("__proto__", .text "required")]
    have hdeclared : DeclaredBy (.ofValues fun _ => .ok reservedRules) []
        [("__proto__", .single "required")] [] :=
      ⟨reservedRules, rfl, [("rules", .record entries)], .record entries, entries, rfl, rfl, rfl,
        .cons ⟨rfl, .single rfl⟩ .nil, .absent⟩
    have hload := (h (.bundled Phrase.bundledLanguage) []
      ⟨[("__proto__", .single "required")], []⟩).mpr hdeclared
    revert hload
    decide +kernel
  · intro h
    have hload : load (.ofValues fun _ => .ok datedRules) (.bundled Phrase.bundledLanguage) [] =
        .ok ⟨[], []⟩ := by decide +kernel
    obtain ⟨_, ⟨⟩, _, _, entries, ⟨⟩, ⟨⟩, hentries, -⟩ := (h _ _ _).mp hload
    cases hentries

end RuleSet

end FieldValidation
