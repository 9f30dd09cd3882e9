import FieldValidation.Host.Yaml.Filling
import FieldValidation.RuleSet.Decoder

/-!
# Documents

A text is one document: directives, the mark that ends them, a root node, and a mark that ends the
document. All but the root may be missing, and a text without any document is nothing. This is the
decoder of a host, so that rule sets can be read; no result speaks of it.

## Main definitions

* `Yaml.readDocument`: reads one document
* `Yaml.read`: the graph and the root of the document that a text is
* `Yaml.decoder`: the decoder that gives it
-/

namespace FieldValidation

namespace Yaml

/-- The words of a line up to one that begins a comment. -/
def wordsOf (line : Text) : List Text :=
  let words := (Text.splitOn (unit ' ') (line.map fun u => if u = unit '\t' then unit ' ' else u))
  (words.filter (· != [])).takeWhile fun word => word.head? != some (unit '#')

/-- Whether a text is a version with the major number one. -/
def isVersion (t : Text) : Bool :=
  match Text.splitFirst? (unit '.') t with
  | some (major, minor) =>
    !major.isEmpty && !minor.isEmpty && major.all CodeUnit.isDigit && minor.all CodeUnit.isDigit &&
      Text.decimalValue major == 1
  | none => false

/-- Lets a handle stand for the beginning of the full names of tags. -/
def declareHandle (handle start : Text) : Reading Unit := do
  let isDeclared := ((← get).handles.lookup handle).isSome
  if !isTagHandle handle || isDeclared || start.isEmpty then fail .malformedDirective
  match decodeTagName? start with
  | some start => modify fun p => { p with handles := (handle, start) :: p.handles }
  | none => fail .malformedDirective

/-- Obeys a directive; `hasVersion` tells whether there has been a version, and so does the result.
Directives that are not known are left alone. -/
def obey (hasVersion : Bool) (name : Text) (arguments : List Text) : Reading Bool := do
  if name = Text.ofString "YAML" then
    match hasVersion, arguments with
    | false, [version] => if isVersion version then return true else fail .malformedDirective
    | _, _ => fail .malformedDirective
  else if name = Text.ofString "TAG" then
    match arguments with
    | [handle, start] =>
      declareHandle handle start
      return hasVersion
    | _ => fail .malformedDirective
  else return hasVersion

/-- Reads the directives from here on, at most `fuel`; tells whether there is one. -/
def readDirectives : (fuel : Nat) → (hasVersion isAny : Bool) → Reading Bool
  | 0, _, isAny => return isAny
  | fuel + 1, hasVersion, isAny => do
    discard separate
    let c ← cursor
    if 0 < c.indent || !c.isAt '%' then return isAny
    let (name, afterName) := (c.advance 1).takeUntil CodeUnit.isSeparator
    if name.isEmpty then fail .malformedDirective
    let (line, lineEnd) := afterName.takeUntil CodeUnit.isBreak
    moveTo lineEnd.newLine
    readDirectives fuel (← obey hasVersion name (wordsOf line)) true

/-- The mark that ends the directives. -/
def directivesEnd : Text := "---"

/-- Reads one document and gives its root. -/
def readDocument : Reading Node := do
  let hasDirectives ← readDirectives (← cursor).rest.length false false
  discard separate
  let c ← cursor
  if c.indent = 0 && Text.startsWith c.rest directivesEnd then
    advance directivesEnd.length
    discard separate
  else if hasDirectives then fail .unmarkedDirectives
  let root ← readSlot maxDepth ⟨(← cursor).indent - 1, .blockOut, false, true⟩
  discard separate
  let c ← cursor
  if c.atDocumentMark then
    if c.isAt '.' then
      advance 3
      discard separate
    if 1 < (← cursor).rest.length then fail .severalDocuments
  else if 1 < c.rest.length then fail .trailingContent
  return root.node

/-- The mark of byte order that a text may begin with. -/
def byteOrderMark : CodeUnit := 0xFEFF

/-- A text as it is read: its last line is ended, and the mark of byte order is left out. -/
def prepared (t : Text) : Text :=
  let ended := if t.getLast?.all CodeUnit.isBreak then t else t ++ [unit '\n']
  if ended.head? = some byteOrderMark then ended.tail else ended

/-- The graph and the root of the document that a text is; `none` if there is nothing in it. -/
def read (t : Text) : Except Fault (Option (Graph × Node)) :=
  if t.contains 0 then .error .nulCharacter
  else
    let start := (Cursor.start (prepared t)).skipAllIndentation
    if start.rest.length ≤ 1 then .ok none
    else do
      let (root, progress) ← readDocument.run ⟨start, #[], [], []⟩
      return some (progress.graph, root)

/-- What is said of a text that is no document. -/
def faultReason : Text := "<yaml syntax error>"

/-- A node in its graph, or nothing. -/
abbrev GraphNode := Option (Graph × Node)

/-- What is seen of a node in its graph. A moment is an object without entries, and bytes are one
with entries under their positions. -/
def look : GraphNode → Shape GraphNode
  | none => .undefined
  | some (graph, node) =>
    let entries (nodes : Entries Node) : Entries GraphNode :=
      Entries.ofPairs (nodes.mapValues fun next => some (graph, next))
    match node with
    | .scalar .null => .null
    | .scalar (.text t) => .text t
    | .scalar (.moment _) => .object (entries [])
    | .scalar (.bytes bs) =>
      .object (entries (Graph.byPosition (bs.map fun b => .scalar (.number (.ofNat b)))))
    | .scalar _ => .scalar
    | .collection number =>
      match graph[number]? with
      | some (.sequence items) => .list (items.map fun next => some (graph, next))
      | _ => .mapping (entries (graph.entries number))

theorem enumerated_look {node : GraphNode} {entries : Entries GraphNode}
    (h : (look node).entries? = some entries) : entries.Enumerated := by
  rcases node with _ | ⟨graph, s | number⟩
  · cases h
  · cases s with
    | moment | bytes =>
      cases h
      exact Entries.enumerated_ofPairs _
    | _ => cases h
  · unfold look at h
    dsimp only at h
    split at h
    · cases h
    · cases h
      exact Entries.enumerated_ofPairs _

/-- The decoder of this host. -/
def decoder : Decoder where
  Node := GraphNode
  decode t := (read t).mapError fun _ => .malformed faultReason []
  look := look
  enumerated _ _ := enumerated_look

end Yaml

end FieldValidation
