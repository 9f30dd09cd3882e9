import FieldValidation.Text.Blank

/-!
# Setting lines

A file of settings has one `KEY=value` a line. Blank lines, lines that start with `#` and lines
without a key are skipped. A value in quotes of one kind is taken as it stands between them; of
any other value a comment from the first `#` on is left out.

## Main definitions

* `Setting.ofLine?`: the key and the value of a line
* `Setting.ofFile`: those of all lines of a file
-/

namespace FieldValidation

namespace Setting

/-- What stands between two quotes of one kind; `none` if the text is not quoted so. -/
def unquote? (t : Text) : Option Text :=
  match t with
  | first :: rest =>
    match rest.getLast? with
    | some last =>
      if first = last ∧ (first = unit '"' ∨ first = unit '\'') then some rest.dropLast else none
    | none => none
  | [] => none

/-- A value without the comment after it. -/
def dropComment (value : Text) : Text :=
  match Text.splitFirst? (unit '#') value with
  | some (before, _) => Text.trim before
  | none => value

/-- The key and the value of a line. -/
def ofLine? (line : Text) : Option (Text × Text) :=
  let trimmed := Text.trim line
  if trimmed.head? = some (unit '#') then none
  else
    match Text.splitFirst? (unit '=') trimmed with
    | none => none
    | some (before, after) =>
      let key := Text.trim before
      -- further equals signs are part of the value
      let value := Text.trim after
      if key = [] then none
      else some (key, (unquote? value).getD (dropComment value))

/-- A line without the carriage return that belongs to its end. -/
def dropReturn (line : Text) : Text :=
  if line.getLast? = some 0x0D then line.dropLast else line

/-- The lines of a file, each ended by a line feed with or without a carriage return before it. -/
def lines (content : Text) : List Text :=
  let pieces := Text.splitOn (unit '\n') content
  pieces.dropLast.map dropReturn ++ pieces.drop (pieces.length - 1)

/-- The keys and values of the lines of a file, in order. -/
def ofFile (content : Text) : List (Text × Text) := (lines content).filterMap ofLine?

end Setting

end FieldValidation
