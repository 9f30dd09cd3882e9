import FieldValidation.Host.Yaml.Slot

/-!
# Collections between brackets

Entries with commas between them. In a mapping an entry without a colon has no value; in a
sequence an entry with a colon is a mapping of one entry.

## Main definitions

* `Yaml.flowCollection?`: the collection at an opening bracket
-/

namespace FieldValidation

namespace Yaml

/-- A collection between brackets. -/
structure FlowForm where
  isMapping : Bool
  number : Nat
  /-- The indentation of what holds the collection. -/
  indent : Int

namespace FlowForm

/-- The bracket that closes a collection. -/
def close (form : FlowForm) : Char := if form.isMapping then '\x7d' else ']'

/-- The slot of a key or a value. -/
def slot (form : FlowForm) : Slot := ⟨form.indent, .flowIn, false, true⟩

/-- Stores an entry: in a mapping under its key, in a sequence the key, or a mapping of the one
entry if there is a value mark. -/
def store (form : FlowForm) (merged : List Text) (key : Key) (value : Option Node) :
    Reading (List Text) := do
  if form.isMapping then
    storeEntry form.number merged key (value.getD .null)
  else
    match value with
    | none =>
      storeItem form.number key.node
      return merged
    | some node =>
      let single ← newCollection (.mapping [])
      discard <| storeEntry single [] key node
      storeItem form.number (.collection single)
      return merged

end FlowForm

/-- Reads the mark of a key that is marked as one; tells whether there is one. -/
def readKeyMark : Reading Bool := do
  let c ← cursor
  if c.isAt '?' && c.secondIs CodeUnit.isSeparator then
    advance 1
    discard separate
    return true
  else return false

/-- The entries of a collection up to its closing bracket, in at most `fuel` entries. `merged`
holds the keys that came by a merge; `isFresh` tells that an entry may follow. -/
def flowEntries (readSlot : SlotReader) (form : FlowForm) :
    (fuel : Nat) → (merged : List Text) → (isFresh : Bool) → Reading Unit
  | 0, _, _ => fail .unclosed
  | fuel + 1, merged, isFresh => do
    discard separate
    let c ← cursor
    if c.atEnd then fail .unclosed
    else if c.isAt form.close then advance 1
    else if !isFresh then fail .missingComma
    else if c.isAt ',' then fail .missingEntry
    else
      let isMarked ← readKeyMark
      let keyLine := (← cursor).line
      let key ← readSlot form.slot
      discard separate
      let afterKey ← cursor
      let value ←
        -- without a mark the colon is on the line that the key began on
        if afterKey.isAt ':' && (isMarked || afterKey.line = keyLine) then do
          advance 1
          discard separate
          pure (some (← readSlot form.slot).node)
        else pure (if isMarked then some .null else none)
      let merged ← form.store merged key.key value
      discard separate
      let hasComma := (← cursor).isAt ','
      if hasComma then advance 1
      flowEntries readSlot form fuel merged hasComma

/-- The collection at an opening bracket; an anchor stands for it from there on. -/
def flowCollection? (readSlot : SlotReader) (indent : Int) (anchor : Option Text) :
    Reading (Option Content) := do
  let c ← cursor
  let isMapping := c.isAt '\x7b'
  if !isMapping && !c.isAt '[' then return none
  let number ← newCollection (if isMapping then .mapping [] else .sequence [])
  anchorTo anchor (.collection number)
  advance 1
  flowEntries readSlot ⟨isMapping, number, indent⟩ (c.rest.length + 1) [] true
  return some ⟨.collection number, some (if isMapping then .mapping else .sequence)⟩

end Yaml

end FieldValidation
