import FieldValidation.Message.Phrase
import FieldValidation.RuleSet.Decoder
import FieldValidation.Settings.Files
import FieldValidation.Validator.Compiled

/-!
# Rule sets

The rules of the fields and the custom messages, as a document declares them. The document is an
object; under `rules` it has the rules of every field, each one text or a list of texts, and under
`messages`, if it likes, the texts of messages. They are assigned one by one to new objects, so an
entry under the reserved key is not made.

## Main definitions

* `RuleSet`: a rule set
* `RuleSetDefect`: why a document is none
* `Entries.assigned`: the object that assignments make
* `RuleSet.ofDocument`: the rule set that is read off a document
* `RuleSet.load`, `RuleSet.loadFile`: the rule set in a text and in a file
-/

namespace FieldValidation

/-- The rules of a field as a document declares them. -/
inductive DeclaredRules where
  | single (rule : Text)
  | several (rules : List Text)
  deriving DecidableEq

/-- The rules as definitions. -/
def DeclaredRules.definitions : DeclaredRules → List Definition
  | single rule => [.text rule]
  | several rules => rules.map .text

/-- A rule set. -/
structure RuleSet where
  rules : Entries DeclaredRules
  messages : Entries Text
  deriving DecidableEq

/-- Why a text declares no rule set. -/
inductive RuleSetDefect where
  /-- The text is no document. -/
  | malformed (reason message : Text)
  | notMapping
  | rulesNotMapping
  | malformedRules (field : Text)
  | messagesNotMapping
  | malformedMessage (key : Text)
  deriving DecidableEq

namespace RuleSetDefect

/-- The defect in words. -/
def reason : RuleSetDefect → Text
  | malformed reason message => if reason.isEmpty then message else reason
  | notMapping => "document must be a mapping"
  | rulesNotMapping => "'rules' must be a mapping of field names to rules"
  | malformedRules field =>
    Text.ofString "rules for '" ++ field ++ "' must be a string or a list of strings"
  | messagesNotMapping => "'messages' must be a mapping of 'field.rule' keys to text"
  | malformedMessage key => Text.ofString "message '" ++ key ++ "' must be a string"

/-- The defect of the document itself, if it is that. -/
def documentDefect? : RuleSetDefect → Option DocumentDefect
  | malformed _ _ => some .malformedYaml
  | _ => none

/-- The code of the failures for want of a rule set. -/
def code : Text := "INVALID_RULESET"

/-- The failure for want of a rule set. -/
def failure (wording : Wording) (defect : RuleSetDefect) : Failure :=
  match wording.say .rulesetInvalid [defect.reason] with
  | .ok message => .configuration message code defect.documentDefect?
  | .error failure => failure

end RuleSetDefect

namespace Entries

variable {α : Type}

/-- The entries with a value assigned to a key; to the reserved key nothing is assigned. -/
def assign (entries : Entries α) (key : Text) (value : α) : Entries α :=
  if key = reservedKey then entries else entries.put key value

/-- The entries that assignments make, one after the other. -/
def assigned (pairs : List (Text × α)) : Entries α :=
  pairs.foldl (fun entries (key, value) => assign entries key value) []

end Entries

namespace RuleSet

section Documents

variable {Node : Type} (look : Node → Shape Node)

/-- The text that a node is. -/
def text? (node : Node) : Option Text :=
  match look node with
  | .text t => some t
  | _ => none

/-- The rules that a node declares. -/
def declared? (node : Node) : Option DeclaredRules :=
  match look node with
  | .text rule => some (.single rule)
  | .list items => (items.mapM (text? look)).map .several
  | _ => none

/-- An entry of a document as it is read; one that cannot be read is a defect. -/
def readEntry {α : Type} (read : Node → Option α) (defect : Text → RuleSetDefect)
    (entry : Text × Node) : Except RuleSetDefect (Text × α) :=
  match read entry.2 with
  | some a => .ok (entry.1, a)
  | none => .error (defect entry.1)

/-- The entries of a document as they are read, each assigned under its key. -/
def copied {α : Type} (read : Node → Option α) (defect : Text → RuleSetDefect)
    (entries : Entries Node) : Except RuleSetDefect (Entries α) := do
  return Entries.assigned (← entries.mapM (readEntry read defect))

/-- The rules that the entries of a document declare. -/
def rulesOf (entries : Entries Node) : Except RuleSetDefect (Entries DeclaredRules) :=
  copied (declared? look) .malformedRules entries

/-- The messages that the entries of a document declare. -/
def messagesOf (entries : Entries Node) : Except RuleSetDefect (Entries Text) :=
  copied (text? look) .malformedMessage entries

/-- The messages of a document that may have none. -/
def optionalMessagesOf : Option Node → Except RuleSetDefect (Entries Text)
  | none => .ok []
  | some node =>
    match look node with
    | .undefined | .null => .ok []
    | .mapping entries | .object entries => messagesOf look entries
    | _ => .error .messagesNotMapping

/-- The rule set that is read off the document with the given root. -/
def ofDocument (root : Node) : Except RuleSetDefect RuleSet := do
  let some document := (look root).entries? | .error .notMapping
  let some entries := (document.find? "rules").bind fun node => (look node).entries?
    | .error .rulesNotMapping
  let rules ← rulesOf look entries
  let messages ← optionalMessagesOf look (document.find? "messages")
  return { rules, messages }

end Documents

/-- The rule set that a text declares, or the failure for want of one. -/
def load (decoder : Decoder) (wording : Wording) (t : Text) : Except Failure RuleSet :=
  match decoder.decode t with
  | .error (.malformed reason message) =>
    .error (RuleSetDefect.failure wording (.malformed reason message))
  | .error (.failed failure) => .error failure
  | .ok root => (ofDocument decoder.look root).mapError (RuleSetDefect.failure wording)

/-- The rule set that a file declares, or the failure for want of the file or of a rule set. -/
def loadFile (decoder : Decoder) (wording : Wording) (files : Files) (path : Text) :
    Except Failure RuleSet :=
  match files path with
  | .absent => .error (.missingFile path)
  | .unreadable reason => .error (.unreadableFile reason)
  | .content content => load decoder wording content

/-- The declarations of a rule set. -/
def declarations (ruleSet : RuleSet) : Declarations :=
  ruleSet.rules.mapValues DeclaredRules.definitions

end RuleSet

end FieldValidation
