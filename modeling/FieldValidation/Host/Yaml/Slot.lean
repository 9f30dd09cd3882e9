import FieldValidation.Host.Yaml.Properties

/-!
# Slots

A slot is a place in a document where a node may stand: how far what holds it is indented, whether
it is between brackets, and whether a block collection may begin right there. Collections are
written in terms of the reading of their slots.

## Main definitions

* `Yaml.Slot`: a place for a node
* `Yaml.Filling`: what stands in a slot
-/

namespace FieldValidation

namespace Yaml

/-- Where a slot is. -/
inductive Place where
  /-- The root, or a value of a block mapping: the node need not be indented further. -/
  | blockOut
  /-- An item of a block sequence. -/
  | blockIn
  /-- A key of a block mapping, which is written on one line. -/
  | flowOut
  /-- Between brackets. -/
  | flowIn
  deriving DecidableEq

/-- Whether block scalars and block collections may stand in a place. -/
def Place.isBlock : Place → Bool
  | .blockOut => true
  | .blockIn => true
  | _ => false

/-- A place for a node. -/
structure Slot where
  /-- The indentation of what holds the slot, one less than none for the root. -/
  parentIndent : Int
  place : Place
  /-- Whether separators may come before the node. -/
  seeks : Bool
  /-- Whether a block collection may begin on the line on which the slot does. -/
  isCompact : Bool

/-- The indentation that the lines of a scalar in a slot have at least. -/
def Slot.scalarIndent (slot : Slot) : Int :=
  if slot.place.isBlock then slot.parentIndent + 1 else slot.parentIndent

/-- What stands in a slot: a node and its content's kind, whether it is the merge key, and whether
anything is written there. -/
structure Filling where
  node : Node
  kind : Option Kind
  isMerge : Bool
  isPresent : Bool

/-- What stands in a slot as a key. -/
def Filling.key (filling : Filling) : Key := ⟨filling.node, filling.isMerge⟩

/-- A way to read a slot. -/
abbrev SlotReader := Slot → Reading Filling

end Yaml

end FieldValidation
