import FieldValidation.Value.Written

/-!
# Looking up fields

A dataset is a container of fields. A name with dots in it walks nested containers, one step per
dot; a field whose value is null or undefined is present all the same.

The children of a record are its entries and those of a list its items, under the text of their
positions, and its `length`. A map has typed keys, so a step that finds no key of its own type is
tried in the other type: a number as its text, and a text of digits as the number they spell.

## Main definitions

* `Value.child?`: one step into a container
* `Value.lookup`: the value of a field
* `Value.fieldOr`: the value of a field, or a fallback
* `Value.setField`, `Value.deleteField`: changing a container in place
-/

namespace FieldValidation

/-- The key to try in a map when `key` is not there. -/
def FieldId.alternate : FieldId → FieldId
  | .position x => .name x.written
  | .name t =>
    if !t.isEmpty && t.all CodeUnit.isDigit then .position (.ofText t) else .name t

/-- The value under a key of a map. -/
def findKey? (entries : List (Value × Value)) (key : Value) : Option Value :=
  match entries with
  | [] => none
  | (k, v) :: rest => if k.sameKey key then some v else findKey? rest key

/-- The item under a key of a list: at the position that the key spells, unless it is a gap, or
the number of items under `length`. -/
def findItem? (items : List (Option Value)) (key : Text) : Option Value :=
  match positionOfKey? key with
  | some n => (items[n]?).join
  | none =>
    if key = Text.ofString "length" then some (.number (.ofNat items.length)) else none

namespace Value

/-- The child of a container under a key; scalars have none. -/
def child? (container : Value) (key : FieldId) : Option Value :=
  match container with
  | .map entries =>
    match findKey? entries key.toValue with
    | some v => some v
    | none => findKey? entries key.alternate.toValue
  | .record entries => Entries.find? entries key.written
  | .list items => findItem? items key.written
  | _ => none

end Value

/-- The steps that an identifier stands for: a name is cut at every dot. -/
def FieldId.path : FieldId → List FieldId
  | .name t => (Text.splitOn (unit '.') t).map .name
  | .position x => [.position x]

namespace Value

/-- What a path leads to from a container. -/
def descend (container : Value) : List FieldId → Option Value
  | [] => some container
  | key :: rest =>
    match container.child? key with
    | some v => descend v rest
    | none => none

/-- The value of a field; `none` where the dataset has no such field. -/
def lookup (dataset : Value) (field : FieldId) : Option Value := dataset.descend field.path

/-- Whether a field is present. -/
def hasField (dataset : Value) (field : FieldId) : Bool := (dataset.lookup field).isSome

/-- The value of a field, or `fallback` where there is none. -/
def lookupD (dataset : Value) (field : FieldId) (fallback : Value) : Value :=
  (dataset.lookup field).getD fallback

/-- The fallback that counts where this one is given: an undefined one is none, and then it is
null. -/
def asFallback : Value → Value
  | .undefined => .null
  | v => v

/-- The value of a field, or the fallback that counts where there is none. -/
def fieldOr (dataset : Value) (field : FieldId) (fallback : Value) : Value :=
  dataset.lookupD field fallback.asFallback

/-- A key as a map holds it: there is one zero. -/
def mapKey : Value → Value
  | .number x => .number (if x.isZero then .zero else x)
  | v => v

/-- The entries of a map with a value put under a key; a present key keeps its place. -/
def putKey (entries : List (Value × Value)) (key value : Value) : List (Value × Value) :=
  if entries.any (·.1.sameKey key) then
    entries.map fun (k, v) => if k.sameKey key then (k, value) else (k, v)
  else entries ++ [(mapKey key, value)]

/-- The map that a sequence of pairs makes. -/
def mapOfPairs (pairs : List (Value × Value)) : Value :=
  .map (pairs.foldl (fun entries (key, value) => putKey entries key value) [])

/-- The items of a list with a value at a position; positions skipped on the way become gaps. -/
def putItem (items : List (Option Value)) (n : Nat) (value : Value) : List (Option Value) :=
  if n < items.length then items.set n (some value)
  else items ++ List.replicate (n - items.length) none ++ [some value]

/-- The container with a value put under a key; a key without a text form is put into maps only. -/
def setField (container key value : Value) : Value :=
  match container with
  | .map entries => .map (putKey entries key value)
  | .record entries =>
    match key.written? with
    | some name => .record (Entries.put entries name value)
    | none => .record entries
  | .list items =>
    match key.written?.bind positionOfKey? with
    | some n => .list (putItem items n value)
    | none => .list items
  | v => v

/-- The container without the value under a key; in a list a gap is left. -/
def deleteField (container key : Value) : Value :=
  match container with
  | .map entries => .map (entries.filter fun (k, _) => !k.sameKey key)
  | .record entries =>
    match key.written? with
    | some name => .record (Entries.erase entries name)
    | none => .record entries
  | .list items =>
    match key.written?.bind positionOfKey? with
    | some n => .list (items.set n none)
    | none => .list items
  | v => v

end Value

end FieldValidation
