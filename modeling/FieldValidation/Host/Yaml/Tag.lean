import FieldValidation.Host.Yaml.Reading

/-!
# Tags

A tag tells what a node is. The core tags are known, each for nodes of one kind; a node without
content is made into what its tag tells, where that can be made of nothing.

## Main definitions

* `Yaml.Kind`, `Yaml.Content`: what has been read of a node
* `Yaml.CoreTag`: the known tags
* `Yaml.resolve`: the node that content with a tag is
-/

namespace FieldValidation

namespace Yaml

/-- The kinds of nodes. -/
inductive Kind where
  | scalar
  | sequence
  | mapping
  deriving DecidableEq

/-- What has been read of a node. An alias and a node without content are of no kind. -/
structure Content where
  node : Node
  kind : Option Kind

namespace Content

/-- No content. -/
def empty : Content := ⟨.null, none⟩

/-- A text. -/
def text (t : Text) : Content := ⟨.scalar (.text t), some .scalar⟩

end Content

/-- The known tags. -/
inductive CoreTag where
  | null
  | bool
  | int
  | float
  | str
  | seq
  | map
  | merge
  | timestamp
  | binary
  | omap
  | pairs
  | set
  deriving DecidableEq

namespace CoreTag

/-- The name of a tag. -/
def name : CoreTag → Text
  | null => "null"
  | bool => "bool"
  | int => "int"
  | float => "float"
  | str => "str"
  | seq => "seq"
  | map => "map"
  | merge => "merge"
  | timestamp => "timestamp"
  | binary => "binary"
  | omap => "omap"
  | pairs => "pairs"
  | set => "set"

/-- All known tags. -/
def all : List CoreTag :=
  [null, bool, int, float, str, seq, map, merge, timestamp, binary, omap, pairs, set]

/-- What the full names of the known tags begin with. -/
def family : Text := "tag:yaml.org,2002:"

/-- The known tag with a full name. -/
def ofFullName? (t : Text) : Option CoreTag := all.find? fun tag => family ++ tag.name == t

/-- The kind of the nodes that a tag is for. -/
def kind : CoreTag → Kind
  | seq => .sequence
  | omap => .sequence
  | pairs => .sequence
  | map => .mapping
  | set => .mapping
  | _ => .scalar

/-- The value of a scalar with a tag: of a text what it spells, of nothing what the tag makes of
it. A scalar that has been resolved already stays what it is only where any scalar will do. -/
def scalar? : CoreTag → Scalar → Option Scalar
  | null, .null => some .null
  | null, .text t => if Scalar.isNull t then some .null else none
  | bool, .text t => (Scalar.bool? t).map .bool
  | int, .text t => (Scalar.int? t).map .number
  | float, .text t => (Scalar.float? t).map .number
  | timestamp, .text t => (Moment.read? t).map .moment
  | binary, .text t => (Scalar.bytes? t).map .bytes
  | merge, .null => some .null
  | merge, .text t => if t = Scalar.mergeKey then some (.text t) else none
  | str, .null => some (.text [])
  | str, s => some s
  | _, _ => none

end CoreTag

namespace Graph

/-- The one entry of a node that is a mapping with just one. -/
def soleEntry? (graph : Graph) : Node → Option (Text × Node)
  | .scalar _ => none
  | .collection number =>
    match graph[number]? with
    | some (.mapping [entry]) => some entry
    | _ => none

/-- Whether a list is an ordered mapping: of mappings with one entry each, no key twice. -/
def isOrderedMapping (graph : Graph) (items : List Node) : Bool :=
  match items.mapM graph.soleEntry? with
  | some entries => entries.Pairwise fun a b => a.1 ≠ b.1
  | none => false

end Graph

/-- The list of a key and a node. -/
def pairOf : Text × Node → Reading Node
  | (key, node) => do return .collection (← newCollection (.sequence [.scalar (.text key), node]))

/-- The collection that a tag makes of nothing. -/
def emptyCollection : Kind → Collection
  | .mapping => .mapping []
  | _ => .sequence []

/-- The collection with a number as a tag has it. -/
def tagCollection (tag : CoreTag) (number : Nat) : Reading Node := do
  let graph := (← get).graph
  match tag with
  | .omap =>
    unless graph.isOrderedMapping (graph.items number) do fail .tagMismatch
    return .collection number
  | .pairs =>
    match (graph.items number).mapM graph.soleEntry? with
    | some entries => return .collection (← newCollection (.sequence (← entries.mapM pairOf)))
    | none => fail .tagMismatch
  | .set =>
    unless (graph.entries number).all fun (_, node) => node.isNull do fail .tagMismatch
    return .collection number
  | _ => return .collection number

/-- The node that content with a known tag is. -/
def resolveCore (tag : CoreTag) (content : Content) : Reading Node := do
  if content.kind.any (· != tag.kind) || (content.kind.isNone && !content.node.isNull) then
    fail .unknownTag
  match content.node with
  | .collection number => tagCollection tag number
  | .scalar s =>
    if tag.kind = .scalar then
      match tag.scalar? s with
      | some s => return .scalar s
      | none => fail .tagMismatch
    else if content.node.isNull then
      return .collection (← newCollection (emptyCollection tag.kind))
    else fail .tagMismatch

/-- The tag of a plain scalar: what it is shows in how it is written. -/
def plainTag : Text := "?"

/-- The tag of a node that is just what is written. -/
def literalTag : Text := "!"

/-- The node that content with a tag is, and whether it is the merge key. -/
def resolve (tag : Text) (content : Content) : Reading (Node × Bool) := do
  if tag = literalTag then return (content.node, false)
  else if tag = plainTag then
    match content.node with
    | .scalar (.text t) =>
      let (s, isMerge) := Scalar.ofPlain t
      return (.scalar s, isMerge)
    | .scalar s => return (.scalar s, false)
    | .collection _ => fail .unknownTag
  else
    match CoreTag.ofFullName? tag with
    | some core => return (← resolveCore core content, core == .merge)
    | none => fail .unknownTag

end Yaml

end FieldValidation
