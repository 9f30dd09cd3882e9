import FieldValidation.Failure.Basic
import FieldValidation.Value.Entries

/-!
# Decoded documents

A rule set is kept in a document, and what a text is as a document is for a decoder to say. Of what
it gives, only a little is looked at: whether a node is a text, a list, or an object, what it
holds, and whether it is nothing. A decoder may share nodes, and a node may be reached from itself,
so a decoded document is given by its root and by what is seen of each node.

## Main definitions

* `Shape`: what is seen of a node
* `DecodeFault`: why a text was not decoded
* `Decoder`: a decoder
-/

namespace FieldValidation

/-- What is seen of a node. -/
inductive Shape (Node : Type) where
  | undefined
  | null
  /-- A number or a truth value. -/
  | scalar
  | text (t : Text)
  | list (items : List Node)
  | mapping (entries : Entries Node)
  /-- An object that is neither a list nor a mapping, such as a date, with the entries it has. -/
  | object (entries : Entries Node)

/-- The entries of an object, be it a mapping or not. -/
def Shape.entries? {Node : Type} : Shape Node → Option (Entries Node)
  | .mapping entries => some entries
  | .object entries => some entries
  | _ => none

/-- Why a text was not decoded. -/
inductive DecodeFault where
  /-- The text is no document; the reason may be left open. -/
  | malformed (reason message : Text)
  /-- The decoder failed for another reason. -/
  | failed (failure : Failure)

/-- A decoder: the root of the document that a text is, and what is seen of each node. -/
structure Decoder where
  Node : Type
  decode : Text → Except DecodeFault Node
  look : Node → Shape Node
  enumerated : ∀ node entries, (look node).entries? = some entries → entries.Enumerated

end FieldValidation
