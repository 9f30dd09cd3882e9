import FieldValidation.Proofs.Text.Lower
import FieldValidation.Proofs.Text.Pieces
import FieldValidation.Proofs.Validator.Session

/-!
# The keys of messages

A message stands under the key of a field and a rule, and the key is cut at its last dot. Since no
rule has a dot in its name, the parts of a key are what it was joined from, however many dots the
field has and wherever they stand. So a key is for one field only, and for one rule but for the
letter case, and what an application does under all other keys makes no difference to the message
that is found.

## Main definitions

* `IsKeyFor`: the keys for a field and a rule
* `MessageEdit`: what an application does to its messages

## Main results

* `isMessageKey_iff`: a key is recognised by its parts
* `IsKeyFor.unique`: whom a key is for
* `findMessage_eq_some_iff`, `findMessage_eq_none_iff`: the message that is found
* `findMessage_congr`: only the messages under the keys for a field and a rule count
* `findMessage_edits`: edits under other keys make no difference
-/

namespace FieldValidation

/-! ## Keys -/

/-- A key for a field and a rule: the field, a dot, and the rule in any letter case, without a
dot. -/
def IsKeyFor (field rule key : Text) : Prop :=
  ∃ name, key = field ++ messageSeparator :: name ∧ messageSeparator ∉ name ∧
    Text.toLower name = Text.toLower rule

variable {field rule text : Text} {messages messages' : Entries Text}

section Keys

variable {key : Text}

/-- Cutting at the last dot recognises the keys that were joined from a field and a rule. -/
theorem isMessageKey_iff : isMessageKey field rule key = true ↔ IsKeyFor field rule key := by
  unfold isMessageKey IsKeyFor
  constructor
  · intro h
    split at h
    · next before after hsplit =>
      obtain ⟨rfl, hdot⟩ := Text.splitLast?_eq_some_iff.mp hsplit
      rw [Bool.and_eq_true, decide_eq_true_iff, decide_eq_true_iff] at h
      obtain ⟨rfl, hname⟩ := h
      exact ⟨after, rfl, hdot, hname⟩
    · cases h
  · rintro ⟨name, rfl, hdot, hname⟩
    rw [Text.splitLast?_append field hdot]
    simp [hname]

instance : Decidable (IsKeyFor field rule key) := decidable_of_iff _ isMessageKey_iff

theorem isMessageKey_eq_false_iff :
    isMessageKey field rule key = false ↔ ¬ IsKeyFor field rule key := by
  rw [← isMessageKey_iff, Bool.not_eq_true]

/-- A key is for one field only, and for one rule but for the letter case. -/
theorem IsKeyFor.unique {field' rule' : Text} (h : IsKeyFor field rule key)
    (h' : IsKeyFor field' rule' key) :
    field = field' ∧ Text.toLower rule = Text.toLower rule' := by
  obtain ⟨name, rfl, hdot, hname⟩ := h
  obtain ⟨name', hkey, hdot', hname'⟩ := h'
  obtain ⟨rfl, rfl⟩ := Text.append_cons_inj_of_not_mem hdot hdot' hkey
  exact ⟨rfl, hname.symm.trans hname'⟩

end Keys

/-! ## The message that is found -/

/-- The message that is found is the first one under a key for the field and the rule. -/
theorem findMessage_eq_some_iff :
    findMessage messages field rule = some text ↔
      ∃ before key after, messages = before ++ (key, text) :: after ∧ IsKeyFor field rule key ∧
        ∀ entry ∈ before, ¬ IsKeyFor field rule entry.1 := by
  unfold findMessage
  rw [Option.map_eq_some_iff]
  constructor
  · rintro ⟨⟨key, text⟩, hfind, rfl⟩
    obtain ⟨hkey, before, after, hmessages, hbefore⟩ := List.find?_eq_some_iff_append.mp hfind
    refine ⟨before, key, after, hmessages, isMessageKey_iff.mp hkey, fun entry hentry => ?_⟩
    exact isMessageKey_eq_false_iff.mp (by simpa using hbefore entry hentry)
  · rintro ⟨before, key, after, rfl, hkey, hbefore⟩
    refine ⟨(key, text), List.find?_eq_some_iff_append.mpr ?_, rfl⟩
    refine ⟨isMessageKey_iff.mpr hkey, before, after, rfl, fun entry hentry => ?_⟩
    simpa using isMessageKey_eq_false_iff.mpr (hbefore entry hentry)

/-- No message is found where none stands under such a key. -/
theorem findMessage_eq_none_iff :
    findMessage messages field rule = none ↔
      ∀ entry ∈ messages, ¬ IsKeyFor field rule entry.1 := by
  unfold findMessage
  rw [Option.map_eq_none_iff, List.find?_eq_none]
  simp only [isMessageKey_iff]

/-- Only the messages under keys for the field and the rule count. -/
theorem findMessage_filter :
    findMessage (messages.filter fun entry => IsKeyFor field rule entry.1) field rule =
      findMessage messages field rule := by
  induction messages with
  | nil => rfl
  | cons entry rest ih =>
    by_cases hkey : IsKeyFor field rule entry.1
    · have hmatch := isMessageKey_iff.mpr hkey
      simp [findMessage_cons, hkey, hmatch]
    · have hmatch := isMessageKey_eq_false_iff.mpr hkey
      simp [findMessage_cons, hkey, hmatch, ih]

theorem findMessage_congr
    (h : (messages.filter fun entry => IsKeyFor field rule entry.1) =
      messages'.filter fun entry => IsKeyFor field rule entry.1) :
    findMessage messages field rule = findMessage messages' field rule := by
  rw [← findMessage_filter, h, findMessage_filter]

/-- Rules with one name in lower case have the same message. -/
theorem findMessage_congr_rule {rule' : Text} (h : Text.toLower rule = Text.toLower rule') :
    findMessage messages field rule = findMessage messages field rule' := by
  simp only [findMessage, isMessageKey, h]

/-! ## Edits -/

/-- What an application does to its messages: it puts one under a key, new or not, or removes the
one there is. -/
inductive MessageEdit where
  | put (key text : Text)
  | erase (key : Text)

namespace MessageEdit

/-- The key that is concerned. -/
def key : MessageEdit → Text
  | .put key _ | .erase key => key

/-- The messages after an edit. -/
def apply (messages : Entries Text) : MessageEdit → Entries Text
  | .put key text => messages.put key text
  | .erase key => messages.erase key

end MessageEdit

theorem findMessage_edit {edit : MessageEdit} (h : ¬ IsKeyFor field rule edit.key) :
    findMessage (edit.apply messages) field rule = findMessage messages field rule := by
  have hkey := isMessageKey_eq_false_iff.mpr h
  cases edit with
  | put key text => exact findMessage_put text hkey
  | erase key => exact findMessage_erase hkey

/-- Edits under other keys make no difference. -/
theorem findMessage_edits {edits : List MessageEdit}
    (h : ∀ edit ∈ edits, ¬ IsKeyFor field rule edit.key) :
    findMessage (edits.foldl MessageEdit.apply messages) field rule =
      findMessage messages field rule := by
  induction edits generalizing messages with
  | nil => rfl
  | cons edit rest ih =>
    obtain ⟨hedit, hrest⟩ := List.forall_mem_cons.mp h
    rw [List.foldl_cons, ih hrest, findMessage_edit hedit]

/-! ## Whom a message is for -/

/-- The message for a field and a rule is the first one, as the messages are enumerated, whose key
is the field, a dot and a text without dots that is the rule up to lower-casing; there is none where
no key is such. A key is for one field only, and for one rule up to lower-casing. So messages that
agree under the keys for a field and a rule have the same message for them, and whatever is put,
replaced or removed under other keys, it stays what it was. Nor does it depend on the letter case of
the rule. -/
theorem findMessage_by_key :
    (∀ (messages : Entries Text) (field rule : Text),
      (∀ text, findMessage messages field rule = some text ↔
        ∃ before key after, messages = before ++ (key, text) :: after ∧ IsKeyFor field rule key ∧
          ∀ entry ∈ before, ¬ IsKeyFor field rule entry.1) ∧
      (findMessage messages field rule = none ↔
        ∀ entry ∈ messages, ¬ IsKeyFor field rule entry.1)) ∧
    (∀ field field' rule rule' key : Text, IsKeyFor field rule key → IsKeyFor field' rule' key →
      field = field' ∧ Text.toLower rule = Text.toLower rule') ∧
    (∀ (messages messages' : Entries Text) (field rule : Text),
      (messages.filter fun entry => IsKeyFor field rule entry.1) =
        (messages'.filter fun entry => IsKeyFor field rule entry.1) →
      findMessage messages field rule = findMessage messages' field rule) ∧
    (∀ (messages : Entries Text) (edits : List MessageEdit) (field rule : Text),
      (∀ edit ∈ edits, ¬ IsKeyFor field rule edit.key) →
      findMessage (edits.foldl MessageEdit.apply messages) field rule =
        findMessage messages field rule) ∧
    ∀ (messages : Entries Text) (field rule rule' : Text),
      Text.toLower rule = Text.toLower rule' ∨ rule.SameButForCase rule' →
      findMessage messages field rule = findMessage messages field rule' := by
  refine ⟨fun messages field rule => ⟨fun text => findMessage_eq_some_iff, findMessage_eq_none_iff⟩,
    fun field field' rule rule' key => IsKeyFor.unique, fun messages messages' field rule =>
    findMessage_congr, fun messages edits field rule => findMessage_edits, ?_⟩
  rintro messages field rule rule' (hlower | hcase)
  · exact findMessage_congr_rule hlower
  · exact findMessage_congr_rule hcase.toLower_eq

/-- Of the two keys for the field, which ends with a dot itself, the first one counts. -/
example : findMessage [("a.min", "1"), ("a..Min", "2"), ("a..min", "3")] "a." "MIN" = some "2" := by
  decide +kernel

end FieldValidation
