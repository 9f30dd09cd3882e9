import FieldValidation.Host.Yaml.Slot

/-!
# Collections in lines

The entries of a block collection begin in one column, each on a line of its own: the items of a
sequence with a hyphen, the entries of a mapping with a key and a colon, or with a question mark
and the key, and then a colon and the value, each on lines of their own. No tab comes before them.

## Main definitions

* `Yaml.blockSequence?`: the sequence at a place
* `Yaml.MappingAttempt`, `Yaml.blockMapping`: the mapping at a place, or what else is there
-/

namespace FieldValidation

namespace Yaml

/-- Goes on to the next entry of a block collection in a column, after one that began on a line;
tells whether there may be one. -/
def nextEntry (column : Nat) (line : Nat) : Reading Bool := do
  discard separate
  let c ← cursor
  if c.atEnd then return false
  else if c.line = line || column < c.indent then fail .badIndentation
  else return column ≤ c.indent

/-- Whether the mark of an item stands here. -/
def atItem (c : Cursor) : Bool := c.isAt '-' && c.secondIs CodeUnit.isSeparator

/-- The items of a sequence from here on, at most `fuel`. -/
def blockItems (readSlot : SlotReader) (number column : Nat) : (fuel : Nat) → Reading Unit
  | 0 => pure ()
  | fuel + 1 => do
    let c ← cursor
    if c.tabbed && !c.atEnd then fail .tabInIndentation
    else if !atItem c then return ()
    else
      advance 1
      let isNewLine ← separate
      if isNewLine && (← cursor).indent ≤ column then
        storeItem number .null
        blockItems readSlot number column fuel
      else
        let line := (← cursor).line
        let item ← readSlot ⟨column, .blockIn, false, true⟩
        storeItem number item.node
        if ← nextEntry column line then
          blockItems readSlot number column fuel

/-- The sequence at a place; an anchor stands for it from there on. -/
def blockSequence? (readSlot : SlotReader) (anchor : Option Text) : Reading (Option Content) := do
  let c ← cursor
  if c.tabbed || !atItem c then return none
  let number ← newCollection (.sequence [])
  anchorTo anchor (.collection number)
  blockItems readSlot number c.column (c.rest.length + 1)
  return some ⟨.collection number, some .sequence⟩

/-- What came of looking for a mapping. -/
inductive MappingAttempt where
  /-- There was no place for one. -/
  | notTried
  /-- There was no key. -/
  | noKey
  /-- There was a node, but no value mark after it. -/
  | other (filling : Filling)
  | mapping (content : Content)

/-- A mapping that is being read. -/
structure MappingForm where
  number : Nat
  column : Nat
  /-- The slots of its keys. -/
  keySlot : Slot

/-- How far a mapping has been read: the keys that came by a merge, the key that has no value yet
if there is one on lines of its own, and whether there was an entry at all. -/
structure MappingProgress where
  merged : List Text
  openKey : Option Key
  isBegun : Bool

namespace MappingForm

/-- Stores the open key, if there is one, without a value. -/
def closeKey (form : MappingForm) (progress : MappingProgress) : Reading (List Text) :=
  match progress.openKey with
  | some key => storeEntry form.number progress.merged key .null
  | none => return progress.merged

/-- The mapping, or what else there is, when there is no further key. -/
def close (form : MappingForm) (progress : MappingProgress) : Reading MappingAttempt := do
  discard <| form.closeKey progress
  if progress.isBegun then return .mapping ⟨.collection form.number, some .mapping⟩
  else return .noKey

/-- The slot of a value, or of a key on lines of its own. -/
def valueSlot (form : MappingForm) (isCompact : Bool) : Slot :=
  ⟨form.column, .blockOut, true, isCompact⟩

end MappingForm

/-- The entries of a mapping from here on, at most `fuel` marks. -/
def blockEntries (readSlot : SlotReader) (form : MappingForm) :
    (fuel : Nat) → MappingProgress → Reading MappingAttempt
  | 0, progress => form.close progress
  | fuel + 1, progress => do
    let c ← cursor
    let goOn (progress : MappingProgress) : Reading MappingAttempt := do
      if ← nextEntry form.column c.line then blockEntries readSlot form fuel progress
      else form.close progress
    let storeValue (merged : List Text) (key : Key) (isCompact : Bool) :
        Reading MappingAttempt := do
      let value ← readSlot (form.valueSlot isCompact)
      goOn ⟨← storeEntry form.number merged key value.node, none, true⟩
    if c.atEnd then form.close progress
    else if progress.openKey.isNone && c.tabbed then fail .tabInIndentation
    else if c.isAt '?' && c.secondIs CodeUnit.isSeparator then
      -- a marked key may go on over several lines, and its value may be missing
      let merged ← form.closeKey progress
      advance 1
      let key ← readSlot (form.valueSlot true)
      goOn ⟨merged, some ⟨key.node, false⟩, true⟩
    else if c.isAt ':' && c.secondIs CodeUnit.isSeparator then
      match progress.openKey with
      | some key =>
        advance 1
        storeValue progress.merged key true
      | none => fail .missingKey
    else
      let key ← readSlot form.keySlot
      if !key.isPresent then form.close progress
      -- a key without a mark ends on its line, and a colon comes after it
      else if (← cursor).line != c.line then
        if progress.isBegun then fail .missingColon else return .other key
      else
        let afterKey := (← cursor).skipBlanks
        moveTo afterKey
        if !afterKey.isAt ':' then
          if progress.isBegun then fail .missingColon else return .other key
        else if !afterKey.secondIs CodeUnit.isSeparator then fail .unseparatedColon
        else
          let merged ← form.closeKey progress
          advance 1
          storeValue merged key.key false

/-- The mapping whose first key begins here, or what else is here; an anchor stands for the mapping
from here on. -/
def blockMapping (readSlot : SlotReader) (scalarIndent : Int) (anchor : Option Text) :
    Reading MappingAttempt := do
  let c ← cursor
  if c.tabbed || c.atEnd then return .notTried
  let number ← newCollection (.mapping [])
  anchorTo anchor (.collection number)
  blockEntries readSlot ⟨number, c.column, ⟨scalarIndent, .flowOut, false, true⟩⟩
    (2 * c.rest.length + 2) ⟨[], none, false⟩

end Yaml

end FieldValidation
