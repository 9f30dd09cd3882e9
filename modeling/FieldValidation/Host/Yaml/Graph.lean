import FieldValidation.Value.Entries
import FieldValidation.Host.Yaml.Fault
import FieldValidation.Host.Yaml.Scalar

/-!
# The graph of a document

A document is a graph of nodes. A node is a scalar or a collection, and collections are numbered,
since one may be reached on several ways and may even hold itself.

## Main definitions

* `Yaml.Node`, `Yaml.Collection`, `Yaml.Graph`: nodes and their graph
* `Yaml.Graph.key`: a node as a key
* `Yaml.Graph.putEntry`, `Yaml.Graph.mergeEntries`: adding entries to a mapping
-/

namespace FieldValidation

namespace Yaml

/-- A node: a scalar, or the collection with a number. -/
inductive Node where
  | scalar (s : Scalar)
  | collection (number : Nat)
  deriving DecidableEq

namespace Node

/-- The node that is nothing. -/
def null : Node := .scalar .null

/-- Whether a node is nothing. -/
def isNull : Node → Bool
  | .scalar .null => true
  | _ => false

end Node

/-- What a collection holds. -/
inductive Collection where
  | sequence (items : List Node)
  | mapping (entries : Entries Node)
  deriving DecidableEq

/-- The collections of a document, by number. -/
abbrev Graph := Array Collection

namespace Graph

/-- The graph with one more collection, and its number. -/
def add (graph : Graph) (collection : Collection) : Graph × Nat :=
  (graph.push collection, graph.size)

/-- The items of a sequence; a mapping has none. -/
def items (graph : Graph) (number : Nat) : List Node :=
  match graph[number]? with
  | some (.sequence items) => items
  | _ => []

/-- The entries of a mapping; a sequence has none. -/
def entries (graph : Graph) (number : Nat) : Entries Node :=
  match graph[number]? with
  | some (.mapping entries) => entries
  | _ => []

/-- The graph with an item added to a sequence. -/
def addItem (graph : Graph) (number : Nat) (item : Node) : Graph :=
  graph.setIfInBounds number (.sequence (graph.items number ++ [item]))

/-- The graph with an entry put into a mapping. -/
def putEntry (graph : Graph) (number : Nat) (key : Text) (node : Node) : Graph :=
  graph.setIfInBounds number (.mapping ((graph.entries number).put key node))

/-- The text of a mapping where a text is asked for. -/
def mappingText : Text := "[object Object]"

/-- An item of a list as a part of a key; a list is none. -/
def keyPart (graph : Graph) : Node → Except Fault Text
  | .scalar .null => .ok []
  | .scalar s => .ok s.written
  | .collection number =>
    match graph[number]? with
    | some (.sequence _) => .error .nestedKey
    | _ => .ok mappingText

/-- A node as a key: a scalar in its written form, a list as its items with commas between
them. -/
def key (graph : Graph) : Node → Except Fault Text
  | .scalar s => .ok s.written
  | .collection number =>
    match graph[number]? with
    | some (.sequence items) => do return Text.join [unit ','] (← items.mapM graph.keyPart)
    | _ => .ok mappingText

/-- The entries of a list under the positions of its items. -/
def byPosition (items : List Node) : Entries Node :=
  items.zipIdx.map fun (item, n) => (Text.ofNat n, item)

/-- The entries that a node has to merge into a mapping; only scalars that are text, a number or
nothing have none to speak of. -/
def mergeable? (graph : Graph) : Node → Option (Entries Node)
  | .scalar (.moment _) => some []
  | .scalar (.bytes bs) => some (byPosition (bs.map fun b => .scalar (.number (.ofNat b))))
  | .scalar _ => none
  | .collection number =>
    match graph[number]? with
    | some (.sequence items) => some (byPosition items)
    | _ => some (graph.entries number)

/-- The graph with entries merged into a mapping, and the keys that are new in it. -/
def mergeEntries (graph : Graph) (number : Nat) : Entries Node → Graph × List Text
  | [] => (graph, [])
  | (key, node) :: rest =>
    if (graph.entries number).contains key then graph.mergeEntries number rest
    else
      let (graph, keys) := (graph.putEntry number key node).mergeEntries number rest
      (graph, key :: keys)

end Graph

end Yaml

end FieldValidation
