import FieldValidation.Host.Yaml.Cursor
import FieldValidation.Host.Yaml.Graph

/-!
# Reading a document

What is known while a document is read: the place that has been reached, the nodes read so far,
and what the anchors and the tag handles stand for.

## Main definitions

* `Yaml.Progress`, `Yaml.Reading`: what is known, and steps that go on from it
* `Yaml.separate`, `Yaml.anchorTo`, `Yaml.storeEntry`: steps that several forms share
-/

namespace FieldValidation

namespace Yaml

/-- What is known in the middle of a document. -/
structure Progress where
  cursor : Cursor
  graph : Graph
  anchors : List (Text × Node)
  handles : List (Text × Text)

/-- A step of reading. -/
abbrev Reading := StateT Progress (Except Fault)

/-- The place that has been reached. -/
def cursor : Reading Cursor := do return (← get).cursor

/-- Goes to a place. -/
def moveTo (c : Cursor) : Reading Unit := modify fun p => { p with cursor := c }

/-- Goes on by `n` units. -/
def advance (n : Nat) : Reading Unit := do moveTo ((← cursor).advance n)

/-- Goes over blanks, line ends and comments; tells whether a line has ended. -/
def separate : Reading Bool := do
  let before ← cursor
  let after := before.separation true
  moveTo after
  return before.line != after.line

/-- Ends the reading with a fault. -/
def fail {α : Type} (fault : Fault) : Reading α := throw fault

/-- A new collection. -/
def newCollection (collection : Collection) : Reading Nat := do
  let (graph, number) := (← get).graph.add collection
  modify fun p => { p with graph := graph }
  return number

/-- Adds an item to a sequence. -/
def storeItem (number : Nat) (item : Node) : Reading Unit :=
  modify fun p => { p with graph := p.graph.addItem number item }

/-- Lets an anchor, if there is one, stand for a node. -/
def anchorTo (anchor : Option Text) (node : Node) : Reading Unit :=
  match anchor with
  | none => pure ()
  | some name => modify fun p => { p with anchors := (name, node) :: p.anchors }

/-- Merges the entries of a node into a mapping; the result is the keys that are new in it. -/
def mergeFrom (number : Nat) (source : Node) : Reading (List Text) := do
  match (← get).graph.mergeable? source with
  | none => fail .unmergeable
  | some entries =>
    let (graph, keys) := (← get).graph.mergeEntries number entries
    modify fun p => { p with graph := graph }
    return keys

/-- Merges the entries of a node, or of each item of a list, into a mapping; the result is the
keys that are new in it. What is already there stays, and so does what is merged first. -/
def mergeAllFrom (number : Nat) (source : Node) : Reading (List Text) := do
  let graph := (← get).graph
  let sources := match source with
    | .scalar _ => [source]
    | .collection sourceNumber =>
      match graph[sourceNumber]? with
      | some (.sequence items) => items
      | _ => [source]
  let keys ← sources.mapM (mergeFrom number)
  return keys.flatten

/-- A key that has been read: its node, and whether it asks for a merge. -/
structure Key where
  node : Node
  isMerge : Bool

/-- The key that is nothing. -/
def Key.empty : Key := ⟨.null, false⟩

/-- Puts an entry into a mapping, or merges what the merge key asks for. Only a key that came by a
merge may be given again; `merged` holds those, and the result is what it becomes. -/
def storeEntry (number : Nat) (merged : List Text) (key : Key) (node : Node) :
    Reading (List Text) := do
  let graph := (← get).graph
  let name ← graph.key key.node
  if key.isMerge then
    return merged ++ (← mergeAllFrom number node)
  else if !merged.contains name && (graph.entries number).contains name then
    fail .duplicateKey
  else
    modify fun p => { p with graph := p.graph.putEntry number name node }
    return merged.filter (· != name)

end Yaml

end FieldValidation
