import FieldValidation.Value.Basic

/-!
# Values as text and as numbers

Scalars have a text form and a numerical form. A list is written as its items between commas, where
missing items leave nothing; records and maps do not show what they hold. A record that has an entry
of its own in the place of its text form has none, and neither has a list with such a record in it.

## Main definitions

* `Value.written?`: the text form, if there is one
* `Value.written`: the text form of a value that has one
* `Value.HasText`: there is a text form
* `Value.toNumber`: the numerical form
-/

namespace FieldValidation

namespace Value

/-- The key under which an entry of a record takes the place of its text form. -/
def textFormKey : Text := "toString"

mutual

/-- The text form of a value; `none` where it has none. -/
def written? : Value → Option Text
  | .undefined => some "undefined"
  | .null => some "null"
  | .bool true => some "true"
  | .bool false => some "false"
  | .number x => some x.written
  | .bigint i => some (Text.ofInt i)
  | .text t => some t
  | .list items => (writtenItems? items).map (Text.join [unit ','])
  | .record entries =>
    if Entries.contains entries textFormKey then none else some "[object Object]"
  | .map _ => some "[object Map]"
  | .file _ => some "[object File]"

/-- The text forms of the items of a list; a gap, null or undefined is empty. -/
def writtenItems? : List (Option Value) → Option (List Text)
  | [] => some []
  | none :: rest => (writtenItems? rest).map ([] :: ·)
  | some .undefined :: rest => (writtenItems? rest).map ([] :: ·)
  | some .null :: rest => (writtenItems? rest).map ([] :: ·)
  | some v :: rest => (written? v).bind fun t => (writtenItems? rest).map (t :: ·)

end

/-- The text form of a value that has one. -/
def written (v : Value) : Text := v.written?.getD []

/-- Whether a value has a text form. -/
def HasText (v : Value) : Prop := v.written?.isSome = true

instance (v : Value) : Decidable v.HasText := inferInstanceAs (Decidable (_ = true))

theorem written?_eq_some {v : Value} (h : v.HasText) : v.written? = some v.written := by
  obtain ⟨t, ht⟩ := Option.isSome_iff_exists.mp h
  rw [written, ht, Option.getD_some]

/-- The numerical form of a value, not-a-number where it would be read from a text form and there
is none. -/
def toNumber : Value → Number
  | .undefined => .nan
  | .null => .zero
  | .bool b => .ofNat (if b then 1 else 0)
  | .number x => x
  | .bigint i => .ofInt i
  | .text t => .ofText t
  | v => (v.written?.map .ofText).getD .nan

end Value

end FieldValidation
