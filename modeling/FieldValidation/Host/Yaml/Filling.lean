import FieldValidation.Host.Yaml.Block
import FieldValidation.Host.Yaml.BlockCollection
import FieldValidation.Host.Yaml.FlowCollection
import FieldValidation.Host.Yaml.Quoted

/-!
# Reading nodes

A slot is read by its properties and its content. The forms of content are told apart by how they
begin. Properties on the line of a key belong to that key, and not to the mapping that begins with
it. A node may lie a limited number of slots deep.

## Main definitions

* `Yaml.readHeader`: the properties of the node in a slot
* `Yaml.readContent`: its content
* `Yaml.fill`, `Yaml.readSlot`: what stands in a slot
-/

namespace FieldValidation

namespace Yaml

/-- What comes before the content of a node. -/
structure Header where
  properties : Properties
  /-- Where the properties begin that are on the line of the content, and those before them. -/
  inline : Option (Properties × Progress)
  /-- Whether a line has ended since the slot began. -/
  isOnNewLine : Bool
  /-- How the line of the content is indented, compared with what holds the slot. -/
  level : Ordering

namespace Header

/-- The indentation of a line compared with that of what holds a slot. -/
def levelIn (slot : Slot) (c : Cursor) : Ordering := compare (c.indent : Int) slot.parentIndent

/-- Whether a block collection may begin at the first property on the line of the content, or at
the content if there is none. -/
def allowsBlock (header : Header) (slot : Slot) : Bool :=
  slot.place.isBlock && (header.isOnNewLine || slot.isCompact)

end Header

/-- The properties from here on, at most `fuel`, in addition to those of a header. Properties
given a second time on a new line are not read: they belong to a key. -/
def readProperties (slot : Slot) : (fuel : Nat) → Header → Reading Header
  | 0, header => return header
  | fuel + 1, header => do
    let before ← get
    let isRepeated := header.isOnNewLine && repeatsProperty header.properties before.cursor
    if header.level != .gt || isRepeated then return header
    match ← readProperty header.properties with
    | none => return header
    | some properties =>
      if ← separate then
        readProperties slot fuel ⟨properties, none, true, Header.levelIn slot (← cursor)⟩
      else
        let inline := header.inline.getD (header.properties, before)
        readProperties slot fuel { header with properties, inline := some inline }

/-- The properties of the node in a slot. -/
def readHeader (slot : Slot) : Reading Header := do
  let isOnNewLine ← if slot.seeks then separate else pure false
  let c ← cursor
  let level := if isOnNewLine then Header.levelIn slot c else .gt
  readProperties slot (c.rest.length + 1) ⟨.none, none, isOnNewLine, level⟩

/-- The node that an alias stands for. An alias has no properties of its own. -/
def readAlias (properties : Properties) : Reading Content := do
  advance 1
  let name ← readAnchorName
  match (← get).anchors.lookup name with
  | none => fail .unknownAlias
  | some node =>
    discard separate
    unless properties.isEmpty do fail .aliasWithProperties
    return ⟨node, none⟩

/-- The scalar that a reader has found, if it has, and the place after it. -/
def takeScalar (found : Except Fault (Option (Text × Cursor))) : Reading (Option Content) := do
  match ← (found : Reading _) with
  | none => return none
  | some (t, after) =>
    moveTo after
    return some (.text t)

/-- The content of a node that is a collection between brackets, a scalar or an alias, and its
properties: those of a plain scalar say so, unless they name a tag. -/
def readInline (readSlot : SlotReader) (slot : Slot) (properties : Properties) :
    Reading (Properties × Option Content) := do
  let c ← cursor
  let quoted (scalar : Cursor → Except Fault (Text × Cursor)) := takeScalar do
    return some (← scalar (c.advance 1))
  match ← flowCollection? readSlot slot.scalarIndent properties.anchor with
  | some content => return (properties, some content)
  | none =>
    if slot.place.isBlock && (c.isAt '|' || c.isAt '>') then
      return (properties, ← takeScalar (blockScalar? slot.scalarIndent.toNat c))
    else if c.isAt '\'' then return (properties, ← quoted singleQuoted)
    else if c.isAt '"' then return (properties, ← quoted doubleQuoted)
    else if c.isAt '*' then return (properties, some (← readAlias properties))
    else
      match ← takeScalar (plain? (slot.place == .flowIn) slot.scalarIndent c) with
      | none => return (properties, none)
      | some content =>
        return ({ properties with tag := properties.tag <|> some plainTag }, some content)

/-- The mapping whose first key the properties on the line of the content belong to, if there is
one, and the properties of that mapping. -/
def readKeyed (readSlot : SlotReader) (slot : Slot) (header : Header) :
    Reading (Option (Properties × Content)) := do
  match header.inline with
  | none => return none
  | some (outer, start) =>
    if !header.allowsBlock slot then return none
    let after ← get
    set start
    match ← blockMapping readSlot slot.scalarIndent outer.anchor with
    | .mapping content => return some (outer, content)
    | _ =>
      set after
      return none

/-- The content of a node that is indented further than what holds it, and the properties it has.
Those that stand on a line before something that is not a block collection, nor may be a key of
one, are left out. -/
def readIndented (readSlot : SlotReader) (slot : Slot) (header : Header) :
    Reading (Properties × Option Content) := do
  if let some (properties, content) ← readKeyed readSlot slot header then
    return (properties, some content)
  let properties := header.properties
  if header.inline.isSome || !header.allowsBlock slot then
    return ← readInline readSlot slot properties
  if let some content ← blockSequence? readSlot properties.anchor then
    return (properties, some content)
  match ← blockMapping readSlot slot.scalarIndent properties.anchor with
  | .mapping content => return (properties, some content)
  | .other filling => return (properties, some ⟨filling.node, filling.kind⟩)
  | .noKey => readInline readSlot slot .none
  | .notTried => readInline readSlot slot properties

/-- The content of the node in a slot, and the properties it has. The items of a sequence that is
a value may begin in the column of its key. -/
def readContent (readSlot : SlotReader) (slot : Slot) (header : Header) :
    Reading (Properties × Option Content) := do
  let allowsItems := slot.place == .blockOut && header.inline.isNone && header.allowsBlock slot
  match header.level with
  | .gt => readIndented readSlot slot header
  | .eq =>
    if allowsItems then
      return (header.properties, ← blockSequence? readSlot header.properties.anchor)
    else return (header.properties, none)
  | .lt => return (header.properties, none)

/-- What stands in a slot, `readSlot` being for the slots in it. -/
def fill (readSlot : SlotReader) (slot : Slot) : Reading Filling := do
  let header ← readHeader slot
  let (properties, content) ← readContent readSlot slot header
  let found := content.getD .empty
  let (node, isMerge) ← match properties.tag with
    | some tag => resolve tag found
    | none => pure (found.node, false)
  anchorTo properties.anchor node
  return ⟨node, found.kind, isMerge, content.isSome || !properties.isEmpty⟩

/-- The number of slots that may lie in one another. -/
def maxDepth : Nat := 100

/-- What stands in a slot, if there are no more than `depth` slots from there on. -/
def readSlot : (depth : Nat) → SlotReader
  | 0, _ => fail .tooDeep
  | depth + 1, slot => fill (readSlot depth) slot

end Yaml

end FieldValidation
