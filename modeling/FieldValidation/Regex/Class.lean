import FieldValidation.Regex.Syntax
import FieldValidation.Unicode.EmojiSequences

/-!
# Character classes

What a class stands for: characters, and where classes are sets also strings of characters. Where
letter case does not count, every set is closed under change of case, so that complements and
differences are those of what is matched.

## Main definitions

* `ClassValue`: what a class stands for
* `property?`: the class of a property of characters
-/

namespace FieldValidation

namespace Regex

/-- What a class stands for. Strings of one character are among the characters; `mayHoldStrings`
tells of the way the class is written, whether strings are left in it or not. -/
structure ClassValue where
  characters : CharacterSet
  strings : List (List Nat)
  mayHoldStrings : Bool

namespace ClassValue

/-- A class of characters. -/
def ofSet (s : CharacterSet) : ClassValue := ⟨s, [], false⟩

/-- What is in either class. -/
def union (a b : ClassValue) : ClassValue where
  characters := a.characters.union b.characters
  strings := (a.strings ++ b.strings).eraseDups
  mayHoldStrings := a.mayHoldStrings || b.mayHoldStrings

/-- What is in both classes. -/
def inter (a b : ClassValue) : ClassValue where
  characters := a.characters.inter b.characters
  strings := a.strings.filter b.strings.contains
  mayHoldStrings := a.mayHoldStrings && b.mayHoldStrings

/-- What is in the first class and not in the second. -/
def diff (a b : ClassValue) : ClassValue where
  characters := a.characters.diff b.characters
  strings := a.strings.filter (!b.strings.contains ·)
  mayHoldStrings := a.mayHoldStrings

/-- The characters that are not in the class; there is no such class of a class of strings. -/
def complement? (a : ClassValue) : Option ClassValue :=
  if a.mayHoldStrings then none else some (ofSet a.characters.complement)

/-- The strings and characters of a class, a longer string being tried before a shorter. -/
def toNode (a : ClassValue) (close : CharacterSet → CharacterSet) : Node :=
  let strings := a.strings.mergeSort fun s t => t.length ≤ s.length
  let single : Node := .characters a.characters
  let nodeOf (s : List Nat) : Node := .ofString (fun c => close (.single c)) s
  let shortest : Node :=
    if strings.contains [] then .either single .empty else single
  (strings.filter (· ≠ [])).foldr (fun s rest => .either (nodeOf s) rest) shortest

end ClassValue

/-- The class of a shorthand: digits, blanks or word characters, in capitals all others. -/
def shorthand? (flags : Flags) (c : Nat) : Option CharacterSet :=
  if c = 0x64 then some digits
  else if c = 0x44 then some digits.complement
  else if c = 0x73 then some blanks
  else if c = 0x53 then some blanks.complement
  else if c = 0x77 then some flags.wordCharacters
  else if c = 0x57 then some flags.wordCharacters.complement
  else none

/-- The class of a property of strings. -/
def stringProperty? (name : String) : Option ClassValue :=
  (Unicode.emojiSequences? name).map fun sequences =>
    let single := sequences.filterMap fun s => match s with
      | [c] => some (c, c)
      | _ => none
    ⟨.ofRanges single, sequences.filter (1 < ·.length), true⟩

/-- The characters of a property with a value, or of a category or a property by its name
alone. -/
def characterProperty? (name : String) (value : Option String) : Option CharacterSet :=
  match value with
  | some v =>
    if ["General_Category", "gc"].contains name then
      (Unicode.category? v).map CharacterSet.ofRanges
    else if ["Script", "sc"].contains name then (Unicode.script? v).map CharacterSet.ofRanges
    else if ["Script_Extensions", "scx"].contains name then do
      let short ← Unicode.shortScriptName? v
      let own ← Unicode.script? v
      let alone := (CharacterSet.ofRanges own).diff (.ofRanges Unicode.extended)
      return alone.union (.ofRanges (Unicode.extendedInto short))
    else none
  | none =>
    ((Unicode.category? name).orElse fun _ => Unicode.binaryProperty? name).map
      CharacterSet.ofRanges

/-- The class of a property; `negated` asks for the characters without it. -/
def property? (flags : Flags) (negated : Bool) (name : String) (value : Option String) :
    Option ClassValue :=
  match characterProperty? name value with
  | some s =>
    let s := if flags.sets then flags.close s else s
    some (.ofSet (if negated then s.complement else s))
  | none =>
    if flags.sets && !negated && value.isNone then stringProperty? name else none

end Regex

end FieldValidation
