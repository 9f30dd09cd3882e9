/-!
# Faults of documents

Why a text is not a document.

## Main definitions

* `Yaml.Fault`: a fault
-/

namespace FieldValidation

namespace Yaml

/-- A fault of a text that was to be one document. -/
inductive Fault where
  /-- The character that no document may hold. -/
  | nulCharacter
  /-- A character that is not printable. -/
  | unprintable
  /-- A second document. -/
  | severalDocuments
  /-- Something after the root node that begins no new document. -/
  | trailingContent
  /-- A directive that is not written as it has to be. -/
  | malformedDirective
  /-- Directives without the mark that ends them. -/
  | unmarkedDirectives
  /-- Nodes in nodes beyond the limit. -/
  | tooDeep
  /-- A tab where an indentation is. -/
  | tabInIndentation
  /-- A line that is indented as no entry may be. -/
  | badIndentation
  /-- A value mark without its key. -/
  | missingKey
  /-- A key without its value mark. -/
  | missingColon
  /-- A colon after a key with no blank behind it. -/
  | unseparatedColon
  /-- A key that is given a second time. -/
  | duplicateKey
  /-- A list in a list that is a key. -/
  | nestedKey
  /-- A scalar where a mapping is to be merged. -/
  | unmergeable
  /-- Entries between brackets without a comma between them. -/
  | missingComma
  /-- A comma between brackets without an entry before it. -/
  | missingEntry
  /-- A bracket or a quote that is never closed. -/
  | unclosed
  /-- An escape that there is not. -/
  | unknownEscape
  /-- The mark of a block scalar with a wrong indicator. -/
  | malformedBlockMark
  /-- A block scalar at the root whose text is not indented. -/
  | unindentedBlock
  /-- A second tag, or a second anchor, on one node. -/
  | repeatedProperty
  /-- An anchor or an alias without a name. -/
  | namelessAnchor
  /-- A tag that is not written as it has to be. -/
  | malformedTag
  /-- A tag that is not known, or not for a node of this kind. -/
  | unknownTag
  /-- A node that is not what its tag tells. -/
  | tagMismatch
  /-- An alias to nothing. -/
  | unknownAlias
  /-- A tag or an anchor on an alias. -/
  | aliasWithProperties
  deriving DecidableEq

end Yaml

end FieldValidation
