import FieldValidation.Text.Basic
import FieldValidation.Unicode.CaseRange
import FieldValidation.Unicode.LowerTable
import FieldValidation.Unicode.CasedTable

/-!
# Lower-casing

Lower-casing a text follows the full mapping of Unicode, character by character. Two characters
need more than the table: U+0130 becomes two characters, and a capital sigma at the end of a
word becomes a final sigma.

## Main definitions

* `Text.toLower`: the lower-case form of a text
-/

namespace FieldValidation

namespace Unicode

/-- A letter with a case. -/
def isCased (c : Nat) : Bool := inRanges casedRanges c

/-- A character passed over when the letters around a sigma are looked for. -/
def isCaseIgnorable (c : Nat) : Bool := inRanges caseIgnorableRanges c

/-- The lower-case form of one character, out of context. -/
def lower (c : Nat) : List Nat :=
  if c == 0x130 then [0x69, 0x307] else [CaseRange.mapCodePoint lowerRanges c]

/-- Whether the next character that counts is a letter with a case. -/
def leadsToCased (cs : List Nat) : Bool :=
  match cs.dropWhile isCaseIgnorable with
  | c :: _ => isCased c
  | [] => false

/-- The lower-case form of `cs`; `inWord` tells whether the last character that counts before
`cs` is a letter with a case. A capital sigma is final where such a letter stands before it and
none follows. -/
def lowerFrom (inWord : Bool) : List Nat → List Nat
  | [] => []
  | c :: cs =>
    let here := if c == 0x3A3 && inWord && !leadsToCased cs then [0x3C2] else lower c
    here ++ lowerFrom (if isCaseIgnorable c then inWord else isCased c) cs

end Unicode

namespace Text

/-- The lower-case form of a text. -/
def toLower (t : Text) : Text := ofCodePoints (Unicode.lowerFrom false (codePoints t))

end Text

end FieldValidation
