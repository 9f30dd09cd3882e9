/-!
# Text

Text is a sequence of UTF-16 code units. Units are kept as they are: a surrogate need not stand
in a pair, so every sequence of units is a text, and lengths, positions and cuts count units.

## Main definitions

* `Text`, `CodeUnit`: text and its units
* `Text.ofString`: the text of a string literal
* `Text.codePoints`: the characters of a text, each surrogate pair taken as one
* `Text.splitOn`, `Text.splitFirst?`, `Text.splitLast?`: cutting at a unit
-/

namespace FieldValidation

/-- A UTF-16 code unit. -/
abbrev CodeUnit := UInt16

/-- Text, unit by unit. -/
abbrev Text := List CodeUnit

/-- The code unit of a character of the basic plane. -/
def unit (c : Char) : CodeUnit := c.toNat.toUInt16

namespace CodeUnit

/-- The first half of a surrogate pair. -/
def isHighSurrogate (u : CodeUnit) : Bool := 0xD800 ≤ u && u ≤ 0xDBFF

/-- The second half of a surrogate pair. -/
def isLowSurrogate (u : CodeUnit) : Bool := 0xDC00 ≤ u && u ≤ 0xDFFF

/-- The ASCII digits. -/
def isDigit (u : CodeUnit) : Bool := unit '0' ≤ u && u ≤ unit '9'

/-- The ASCII letters. -/
def isLetter (u : CodeUnit) : Bool :=
  (unit 'A' ≤ u && u ≤ unit 'Z') || (unit 'a' ≤ u && u ≤ unit 'z')

/-- The number a decimal digit stands for. -/
def digitValue (u : CodeUnit) : Nat := u.toNat - 48

/-- The value of a hexadecimal digit, in either case. -/
def hexValue? (u : CodeUnit) : Option Nat :=
  if isDigit u then some (digitValue u)
  else if unit 'a' ≤ u && u ≤ unit 'f' then some (u.toNat - 87)
  else if unit 'A' ≤ u && u ≤ unit 'F' then some (u.toNat - 55)
  else none

end CodeUnit

namespace Text

/-- The units of a code point: one in the basic plane, a surrogate pair above it. -/
def ofCodePoint (n : Nat) : Text :=
  if n < 0x10000 then [n.toUInt16]
  else [(0xD800 + (n - 0x10000) / 0x400).toUInt16, (0xDC00 + (n - 0x10000) % 0x400).toUInt16]

/-- The text of a string. -/
def ofString (s : String) : Text := s.toList.flatMap fun c => ofCodePoint c.toNat

instance : Coe String Text := ⟨ofString⟩

/-- The code point of a surrogate pair. -/
def joinSurrogates (high low : CodeUnit) : Nat :=
  0x10000 + (high.toNat - 0xD800) * 0x400 + (low.toNat - 0xDC00)

/-- The characters of a text: a high surrogate followed by a low one is one character, and every
other unit is a character by itself. -/
def codePoints : Text → List Nat
  | [] => []
  | [u] => [u.toNat]
  | u :: v :: rest =>
    if u.isHighSurrogate && v.isLowSurrogate then joinSurrogates u v :: codePoints rest
    else u.toNat :: codePoints (v :: rest)

/-- The text of a sequence of code points. -/
def ofCodePoints (ns : List Nat) : Text := ns.flatMap ofCodePoint

/-- The text with every unpaired surrogate replaced by U+FFFD, as any Unicode encoding of it
would read back. -/
def wellFormed (t : Text) : Text :=
  ofCodePoints ((codePoints t).map fun n => if 0xD800 ≤ n && n ≤ 0xDFFF then 0xFFFD else n)

/-- The string of a text; an unpaired surrogate becomes U+FFFD. -/
def toString (t : Text) : String :=
  String.ofList ((codePoints (wellFormed t)).map Char.ofNat)

/-- The pieces between the occurrences of `sep`: one more than there are occurrences. -/
def splitOn (sep : CodeUnit) : Text → List Text
  | [] => [[]]
  | u :: rest =>
    if u = sep then [] :: splitOn sep rest
    else
      match splitOn sep rest with
      | [] => [[u]]
      | piece :: pieces => (u :: piece) :: pieces

/-- What stands before and after the first `sep`; `none` if there is none. -/
def splitFirst? (sep : CodeUnit) : Text → Option (Text × Text)
  | [] => none
  | u :: rest =>
    if u = sep then some ([], rest)
    else (splitFirst? sep rest).map fun (before, after) => (u :: before, after)

/-- What stands before and after the last `sep`; `none` if there is none. -/
def splitLast? (sep : CodeUnit) : Text → Option (Text × Text)
  | [] => none
  | u :: rest =>
    match splitLast? sep rest with
    | some (before, after) => some (u :: before, after)
    | none => if u = sep then some ([], rest) else none

/-- The texts one after the other, `sep` between any two. -/
def join (sep : Text) (ts : List Text) : Text := (ts.intersperse sep).flatten

/-- What is left of `t` once `start` is taken off its front; `none` if `t` does not begin so. -/
def dropPrefix? : (start : Text) → (t : Text) → Option Text
  | [], t => some t
  | _ :: _, [] => none
  | p :: ps, u :: us => if p = u then dropPrefix? ps us else none

/-- Whether `t` begins with `start`. -/
def startsWith (t start : Text) : Bool := (dropPrefix? start t).isSome

/-- Whether `t` ends with `last`. -/
def endsWith (t last : Text) : Bool := startsWith t.reverse last.reverse

/-- The decimal digits of a natural number. -/
def ofNat (n : Nat) : Text := (Nat.toDigits 10 n).map unit

/-- The decimal digits of an integer, a minus sign before them where it is negative. -/
def ofInt (i : Int) : Text :=
  if i < 0 then unit '-' :: ofNat i.natAbs else ofNat i.natAbs

/-- The number that a run of digits spells in base `base`, each digit read by `value`. -/
def digitsValue (base : Nat) (value : CodeUnit → Nat) (t : Text) : Nat :=
  t.foldl (fun n u => n * base + value u) 0

/-- The number that a run of decimal digits spells. -/
def decimalValue (t : Text) : Nat := digitsValue 10 CodeUnit.digitValue t

end Text

end FieldValidation
