import FieldValidation.Regex.Matching
import FieldValidation.Regex.Parser

/-!
# Patterns with delimiters

A pattern is a regular expression, or one between slashes with flags after it.

## Main definitions

* `Regex.compile?`: the regular expression of a source with flags
* `Regex.test`: whether a regular expression matches in a text
* `Regex.bodyAndFlags`: the source and the flags of a pattern
* `Regex.matchesPattern`: whether a pattern matches in a text
-/

namespace FieldValidation

/-- A regular expression that can be searched for. -/
structure Regex where
  flags : Regex.Flags
  node : Regex.Node
  groupCount : Nat

namespace Regex

/-- The characters of a text: code points, or code units one by one. -/
def charactersOf (byCodePoints : Bool) (t : Text) : List Nat :=
  if byCodePoints then Text.codePoints t else t.map UInt16.toNat

/-- The regular expression of a source with flags; `none` if it is none. -/
def compile? (source flags : Text) : Option Regex := do
  let flags ← Flags.parse? flags
  let (node, groupCount) ← parse? flags (charactersOf flags.unicode source)
  return ⟨flags, node, groupCount⟩

/-- Whether the regular expression matches in a text. -/
def test (regex : Regex) (t : Text) : Bool :=
  regex.node.search regex.groupCount
    ⟨(charactersOf regex.flags.unicode t).toArray, regex.flags, regex.flags.wordCharacters⟩

/-- The small ASCII letters. -/
def isFlagUnit (u : CodeUnit) : Bool := unit 'a' ≤ u && u ≤ unit 'z'

/-- The source and the flags of a pattern: of `/body/flags`, where the last slash ends the body and
only small letters follow it, these two; any other text is a source without flags. -/
def bodyAndFlags (pattern : Text) : Text × Text :=
  match pattern with
  | [] => ([], [])
  | u :: rest =>
    if u = unit '/' then
      match Text.splitLast? (unit '/') rest with
      | some (body, flags) => if flags.all isFlagUnit then (body, flags) else (pattern, [])
      | none => (pattern, [])
    else (pattern, [])

/-- Whether a pattern matches in a text; one that is no regular expression never does. -/
def matchesPattern (pattern text : Text) : Bool :=
  let (source, flags) := bodyAndFlags pattern
  match compile? source flags with
  | some regex => regex.test text
  | none => false

end Regex

end FieldValidation
