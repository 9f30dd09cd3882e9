import FieldValidation.Number.Written
import FieldValidation.Number.Reading
import FieldValidation.Value.Entries

/-!
# Values

The values a dataset holds and a rule is given: scalars, lists, records and maps. A record has
text keys in enumeration order, a map has keys of any kind in the order they were put. A list may
have gaps, places that were never filled or were cleared.

## Main definitions

* `Value`: a value
* `FieldId`: the name or the position of a field
* `Value.identical`: sameness of two scalars
-/

namespace FieldValidation

/-- A value. -/
inductive Value where
  /-- The absence of a value, where it is held like one. -/
  | undefined
  | null
  | bool (b : Bool)
  | number (x : Number)
  /-- An integer of any size, apart from the numbers. -/
  | bigint (i : Int)
  | text (t : Text)
  /-- A list; `none` is a gap. -/
  | list (items : List (Option Value))
  | record (entries : List (Text × Value))
  | map (entries : List (Value × Value))
  /-- An uploaded file. -/
  | file (name : Text)

namespace Value

instance : Inhabited Value := ⟨.undefined⟩

/-- A list without gaps. -/
def ofList (values : List Value) : Value := .list (values.map some)

/-- An integer as a number. -/
def ofInt (i : Int) : Value := .number (.ofInt i)

/-- A string literal as a value. -/
def ofString (s : String) : Value := .text (Text.ofString s)

/-- Whether a value is a text. -/
def isText : Value → Bool
  | .text _ => true
  | _ => false

/-- Sameness of scalars: texts unit by unit, numbers by numerical equality (so not-a-number is not
identical with itself). A container is identical with no other value. -/
def identical : Value → Value → Bool
  | .undefined, .undefined => true
  | .null, .null => true
  | .bool a, .bool b => a == b
  | .number x, .number y => x.equals y
  | .bigint i, .bigint j => i == j
  | .text t, .text u => t == u
  | _, _ => false

/-- Sameness as keys of a map: as `identical`, but not-a-number is one key. -/
def sameKey : Value → Value → Bool
  | .number .nan, .number .nan => true
  | a, b => identical a b

end Value

/-- The identifier of a field: a name, or a position. -/
inductive FieldId where
  | name (t : Text)
  | position (x : Number)
  deriving DecidableEq

namespace FieldId

instance : Inhabited FieldId := ⟨.name []⟩

instance : Coe Text FieldId := ⟨.name⟩

/-- The identifier as text. -/
def written : FieldId → Text
  | .name t => t
  | .position x => x.written

/-- The identifier as a value. -/
def toValue : FieldId → Value
  | .name t => .text t
  | .position x => .number x

/-- The identifier that a value is: a text or a number. -/
def ofValue? : Value → Option FieldId
  | .text t => some (.name t)
  | .number x => some (.position x)
  | _ => none

/-- Sameness of identifiers; positions compare as numbers. -/
def identical (a b : FieldId) : Bool := a.toValue.identical b.toValue

end FieldId

end FieldValidation
