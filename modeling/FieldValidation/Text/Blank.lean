import FieldValidation.Text.Basic

/-!
# Blanks

The characters that count as blank: the ASCII controls from tab to carriage return, the space,
the Unicode space separators, the line and paragraph separators, and the byte order mark. Next
line (U+0085), the zero width space (U+200B) and the Mongolian vowel separator (U+180E) do not.

## Main definitions

* `CodeUnit.isBlank`: the blank units
* `Text.trim`: a text without the blanks at its ends
-/

namespace FieldValidation

namespace CodeUnit

/-- Whether a unit is blank. -/
def isBlank (u : CodeUnit) : Bool :=
  (0x09 ≤ u && u ≤ 0x0D) || u == 0x20 || u == 0xA0 || u == 0x1680 ||
    (0x2000 ≤ u && u ≤ 0x200A) || u == 0x2028 || u == 0x2029 || u == 0x202F || u == 0x205F ||
    u == 0x3000 || u == 0xFEFF

end CodeUnit

namespace Text

/-- The text without the blanks it begins with. -/
def trimStart (t : Text) : Text := t.dropWhile CodeUnit.isBlank

/-- The text without the blanks it ends with. -/
def trimEnd (t : Text) : Text := (trimStart t.reverse).reverse

/-- The text without the blanks at either end. -/
def trim (t : Text) : Text := trimEnd (trimStart t)

end Text

end FieldValidation
