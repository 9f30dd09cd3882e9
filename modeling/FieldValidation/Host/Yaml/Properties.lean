import FieldValidation.Host.Percent
import FieldValidation.Host.Yaml.Tag

/-!
# Properties of nodes

Before its content a node may have a tag and an anchor. A tag is written in full between angle
brackets, or begins with a handle that stands for the beginning of its full name.

## Main definitions

* `Yaml.Properties`: the properties of a node
* `Yaml.readProperty`: reads one property, if there is one
* `Yaml.isTagHandle`, `Yaml.decodeTagName?`: how handles and names of tags are written
-/

namespace FieldValidation

namespace Yaml

/-- The properties of a node. -/
structure Properties where
  tag : Option Text
  anchor : Option Text

namespace Properties

/-- No properties. -/
def none : Properties := ⟨.none, .none⟩

/-- Whether there are no properties. -/
def isEmpty (properties : Properties) : Bool := properties.tag.isNone && properties.anchor.isNone

end Properties

/-- Whether a text is a handle: one mark, two, or letters and hyphens between two. -/
def isTagHandle (t : Text) : Bool :=
  let mark := unit '!'
  let inner := (t.drop 1).dropLast
  t == [mark] || t == [mark, mark] ||
    (3 ≤ t.length && t.head? == some mark && t.getLast? == some mark &&
      inner.all fun u => u.isLetter || u == unit '-')

/-- Whether all units are those of the name of a tag, each other character being escaped. -/
def isTagTail : Text → Bool
  | [] => true
  | u :: rest =>
    if u = unit '%' then
      match rest with
      | a :: b :: after => a.hexValue?.isSome && b.hexValue?.isSome && isTagTail after
      | _ => false
    else
      (u.isLetter || u.isDigit || (Text.ofString "-#;/?:@&=+$,_.!~*'()[]").contains u) &&
        isTagTail rest

/-- The name of a tag that is written with escapes. It begins with any unit but those that build
collections. -/
def decodeTagName? (t : Text) : Option Text :=
  match t with
  | [] => some []
  | u :: rest => if u.isFlowMark || !isTagTail rest then none else Text.percentDecode? [] t

/-- The full name of the tag with a handle and a name. -/
def fullTagName? (handles : List (Text × Text)) (handle name : Text) : Option Text :=
  match handles.lookup handle with
  | some start => some (start ++ name)
  | none =>
    if handle = Text.ofString "!" then some (handle ++ name)
    else if handle = Text.ofString "!!" then some (CoreTag.family ++ name)
    else none

/-- The handle and the name that a tag consists of, after its first mark. A name holds no mark and
no unit that builds collections. -/
def splitTag? (t : Text) : Option (Text × Text) :=
  let mark := unit '!'
  let (handle, name) := match Text.splitFirst? mark t with
    | some (before, after) => (mark :: (before ++ [mark]), after)
    | none => ([mark], t)
  if isTagHandle handle && !name.contains mark && !name.any CodeUnit.isFlowMark then
    some (handle, name)
  else none

/-- Reads a tag after its first mark. -/
def readTag : Reading Text := do
  let c ← cursor
  if c.isAt '<' then
    let inner := c.advance 1
    let (name, close) := (inner.advance 1).takeUntil (· == unit '>')
    if close.atEnd then fail .malformedTag
    moveTo (close.advance 1)
    match decodeTagName? (inner.rest.take 1 ++ name) with
    | some name => return name
    | none => fail .malformedTag
  else
    let (word, after) := c.takeUntil CodeUnit.isSeparator
    moveTo after
    let handles := (← get).handles
    let full := do
      let (handle, name) ← splitTag? word
      fullTagName? handles handle (← decodeTagName? name)
    match full with
    | some name => return name
    | none => fail .malformedTag

/-- Reads the name of an anchor after its mark. -/
def readAnchorName : Reading Text := do
  let (name, after) := (← cursor).takeUntil fun u => u.isSeparator || u.isFlowMark
  if name.isEmpty then fail .namelessAnchor
  moveTo after
  return name

/-- Whether a property begins here that there is already. -/
def repeatsProperty (properties : Properties) (c : Cursor) : Bool :=
  (c.isAt '!' && properties.tag.isSome) || (c.isAt '&' && properties.anchor.isSome)

/-- Reads one property, if there is one, in addition to others. -/
def readProperty (properties : Properties) : Reading (Option Properties) := do
  let c ← cursor
  if repeatsProperty properties c then fail .repeatedProperty
  else if c.isAt '!' then
    advance 1
    return some { properties with tag := some (← readTag) }
  else if c.isAt '&' then
    advance 1
    return some { properties with anchor := some (← readAnchorName) }
  else return .none

end Yaml

end FieldValidation
