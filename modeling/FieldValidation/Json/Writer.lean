import FieldValidation.Value.Written

/-!
# Writing JSON

JSON without blanks. Entries that are undefined are left out, and undefined items, gaps and
numbers that are not finite are written as null. Control characters and surrogates without a
partner are escaped, everything else stands for itself.

## Main definitions

* `Json.write`: the document of a value
-/

namespace FieldValidation

namespace Json

/-- A digit of base 16 in lower case. -/
def hexDigit (n : Nat) : CodeUnit := if n < 10 then (48 + n).toUInt16 else (87 + n).toUInt16

/-- The escape of a unit by its number. -/
def unicodeEscape (u : CodeUnit) : Text :=
  let n := u.toNat
  unit '\\' :: unit 'u' :: [n / 4096, n / 256 % 16, n / 16 % 16, n % 16].map hexDigit

/-- A unit inside a string, where it has no partner. -/
def writeUnit (u : CodeUnit) : Text :=
  if u = unit '"' ∨ u = unit '\\' then [unit '\\', u]
  else if u = 0x08 then "\\b"
  else if u = 0x09 then "\\t"
  else if u = 0x0A then "\\n"
  else if u = 0x0C then "\\f"
  else if u = 0x0D then "\\r"
  else if u < 0x20 ∨ u.isHighSurrogate ∨ u.isLowSurrogate then unicodeEscape u
  else [u]

/-- The inside of a string. -/
def writeUnits : Text → Text
  | [] => []
  | [u] => writeUnit u
  | u :: v :: rest =>
    if u.isHighSurrogate && v.isLowSurrogate then u :: v :: writeUnits rest
    else writeUnit u ++ writeUnits (v :: rest)

/-- A string. -/
def writeString (t : Text) : Text := unit '"' :: (writeUnits t ++ [unit '"'])

mutual

/-- The document of a value. -/
def write : Value → Text
  | .undefined => "null"
  | .null => "null"
  | .bool true => "true"
  | .bool false => "false"
  | .number x => if x.isFinite then x.written else "null"
  | .bigint i => Text.ofInt i
  | .text t => writeString t
  | .list items => unit '[' :: (Text.join [unit ','] (writeItems items) ++ [unit ']'])
  | .record entries =>
    unit '\x7b' :: (Text.join [unit ','] (writeMembers entries) ++ [unit '\x7d'])
  | .map _ => "\x7b\x7d"
  | .file _ => "\x7b\x7d"

/-- The documents of the items of a list. -/
def writeItems : List (Option Value) → List Text
  | [] => []
  | none :: rest => "null" :: writeItems rest
  | some v :: rest => write v :: writeItems rest

/-- The members of a record. -/
def writeMembers : List (Text × Value) → List Text
  | [] => []
  | (_, .undefined) :: rest => writeMembers rest
  | (key, v) :: rest => (writeString key ++ unit ':' :: write v) :: writeMembers rest

end

end Json

end FieldValidation
