import FieldValidation.Regex.Syntax
import FieldValidation.Unicode.Property

/-!
# Escapes and numerals in patterns

The smallest parts of a pattern, each read off the front of the characters that are left: hex
and octal numerals, counts, characters behind a backslash, and the names of groups.

## Main definitions

* `Regex.characterEscape?`: the character that an escape stands for
* `Regex.braces?`: the counts of a repetition
* `Regex.groupName?`: the name of a group
* `Regex.groupNames`: the groups of a pattern, in order
-/

namespace FieldValidation

namespace Regex

/-- The number of an ASCII character. -/
def code (c : Char) : Nat := c.toNat

/-- Whether a character is one of some ASCII characters. -/
def isOneOf (chars : String) (c : Nat) : Bool := chars.toList.any (code · == c)

/-- Whether a character is a decimal digit. -/
def isDigit (c : Nat) : Bool := code '0' ≤ c && c ≤ code '9'

/-- Whether a character is an octal digit. -/
def isOctalDigit (c : Nat) : Bool := code '0' ≤ c && c ≤ code '7'

/-- Whether a character is an ASCII letter. -/
def isLetter (c : Nat) : Bool :=
  (code 'a' ≤ c && c ≤ code 'z') || (code 'A' ≤ c && c ≤ code 'Z')

/-- The value of a hexadecimal digit. -/
def hexValue? (c : Nat) : Option Nat :=
  if c < 0x80 then CodeUnit.hexValue? c.toUInt16 else none

/-- The number of exactly `n` hexadecimal digits. -/
def hexNumber? (n : Nat) (cs : List Nat) : Option (Nat × List Nat) :=
  match (cs.take n).mapM hexValue? with
  | some values =>
    if values.length = n then some (values.foldl (fun v d => v * 16 + d) 0, cs.drop n) else none
  | none => none

/-- The number of a run of digits; there is at least one. -/
def decimal? (cs : List Nat) : Option (Nat × List Nat) :=
  match cs.takeWhile isDigit with
  | [] => none
  | ds => some (ds.foldl (fun v d => v * 10 + (d - 48)) 0, cs.dropWhile isDigit)

/-- The number of an octal escape below 256, from the value of the digits before. -/
def octal (value : Nat) : List Nat → Nat × List Nat
  | [] => (value, [])
  | c :: cs =>
    if isOctalDigit c && value < 32 then octal (value * 8 + (c - 48)) cs else (value, c :: cs)

/-- A code point in braces, after the opening one. -/
def bracedCodePoint? (cs : List Nat) : Option (Nat × List Nat) :=
  let digits := cs.takeWhile fun c => (hexValue? c).isSome
  match digits, cs.dropWhile fun c => (hexValue? c).isSome with
  | _ :: _, c :: rest => do
    let (value, _) ← hexNumber? digits.length digits
    if c = code '\x7d' ∧ value ≤ 0x10FFFF then some (value, rest) else none
  | _, _ => none

/-- Whether a number is that of the first half of a surrogate pair. -/
def isHighHalf (c : Nat) : Bool := 0xD800 ≤ c && c ≤ 0xDBFF

/-- Whether a number is that of the second half of a surrogate pair. -/
def isLowHalf (c : Nat) : Bool := 0xDC00 ≤ c && c ≤ 0xDFFF

/-- The code point of a surrogate pair. -/
def joinHalves (high low : Nat) : Nat := 0x10000 + (high - 0xD800) * 0x400 + (low - 0xDC00)

/-- The character of an escape after `\u`: four digits, or, where code points are read, also a
code point in braces or the two halves of a pair. -/
def unicodeEscape? (byCodePoints : Bool) (cs : List Nat) : Option (Nat × List Nat) :=
  if !byCodePoints then hexNumber? 4 cs
  else
    match cs with
    | c :: rest =>
      if c = code '\x7b' then bracedCodePoint? rest
      else do
        let (high, after) ← hexNumber? 4 cs
        match after with
        | b :: u :: more =>
          if isHighHalf high && b = code '\\' && u = code 'u' then
            match hexNumber? 4 more with
            | some (low, rest) =>
              if isLowHalf low then return (joinHalves high low, rest) else return (high, after)
            | none => return (high, after)
          else return (high, after)
        | _ => return (high, after)
    | [] => none

/-- The characters with a meaning of their own, which a backslash takes away. -/
def isSyntaxCharacter (c : Nat) : Bool := isOneOf "^$\\.*+?()[]\x7b\x7d|/" c

/-- The signs that may be escaped inside a set. -/
def isSetPunctuation (c : Nat) : Bool := isOneOf "&-!#%,:;<=>@`~" c

/-- The character of a control letter: its number modulo 32. -/
def control? (alsoDigits : Bool) : List Nat → Option (Nat × List Nat)
  | [] => none
  | c :: cs =>
    if isLetter c || (alsoDigits && (isDigit c || c == code '_')) then some (c % 32, cs) else none

/-- The control characters with a letter of their own. -/
def namedControl? (c : Nat) : Option Nat :=
  if c = code 't' then some 0x09
  else if c = code 'n' then some 0x0A
  else if c = code 'v' then some 0x0B
  else if c = code 'f' then some 0x0C
  else if c = code 'r' then some 0x0D
  else none

/-- The character that stands after a backslash. In lenient patterns an escape without a meaning
of its own stands for the escaped character, and digits are octal; `named` tells whether the
pattern has named groups. -/
def characterEscape? (flags : Flags) (named inClass : Bool) (cs : List Nat) :
    Option (Nat × List Nat) :=
  match cs with
  | [] => none
  | c :: rest =>
    match namedControl? c with
    | some control => some (control, rest)
    | none =>
      if c = code 'c' then
        match control? (inClass && !flags.unicode) rest with
        | some found => some found
        -- without a letter after it the backslash is literal, and `c` is read again
        | none => if flags.unicode then none else some (code '\\', cs)
      else if c = code 'x' then
        (hexNumber? 2 rest).orElse fun _ => if flags.unicode then none else some (c, rest)
      else if c = code 'u' then
        (unicodeEscape? flags.unicode rest).orElse fun _ =>
          if flags.unicode then none else some (c, rest)
      else if isDigit c then
        if flags.unicode then
          if c = code '0' && !rest.head?.any isDigit then some (0, rest) else none
        else if isOctalDigit c then some (octal (c - 48) rest)
        else some (c, rest)
      else if flags.unicode then
        if isSyntaxCharacter c || (inClass && c == code '-') ||
            (inClass && flags.sets && isSetPunctuation c) then
          some (c, rest)
        else none
      -- a name was to follow: with named groups `k` is no escape
      else if c = code 'k' && named then none
      else some (c, rest)

/-- The counts of a repetition after the opening brace: the least, and the most if there is
one. -/
def braces? (cs : List Nat) : Option ((Nat × Option Nat) × List Nat) := do
  let (least, rest) ← decimal? cs
  match rest with
  | c :: rest =>
    if c = code '\x7d' then some ((least, some least), rest)
    else if c = code ',' then
      match rest with
      | d :: after =>
        if d = code '\x7d' then some ((least, none), after)
        else do
          let (most, rest) ← decimal? rest
          if rest.head? = some (code '\x7d') then some ((least, some most), rest.drop 1) else none
      | [] => none
    else none
  | [] => none

/-- The characters that names begin with, beside the dollar sign and the underscore. -/
def nameStarts : CharacterSet := (Unicode.binaryProperty? "ID_Start").getD []

/-- The characters that names go on with, beside the dollar sign and the joiners. -/
def nameParts : CharacterSet := (Unicode.binaryProperty? "ID_Continue").getD []

/-- Whether a name may have a character, as its first or further on. -/
def isNameCharacter (first : Bool) (c : Nat) : Bool :=
  c == code '$' || c == code '_' ||
    (if first then nameStarts.has c else nameParts.has c || c == 0x200C || c == 0x200D)

/-- The next character of a name, which may be escaped. -/
def nameCharacter? : List Nat → Option (Nat × List Nat)
  | [] => none
  | c :: rest =>
    if c = code '\\' then
      match rest with
      | u :: after => if u = code 'u' then unicodeEscape? true after else none
      | [] => none
    else
      match rest with
      | d :: after =>
        if isHighHalf c && isLowHalf d then some (joinHalves c d, after) else some (c, rest)
      | [] => some (c, [])

/-- The rest of a name up to its closing bracket. -/
def nameRest? : Nat → List Nat → Option (List Nat × List Nat)
  | 0, _ => none
  | _, [] => none
  | fuel + 1, c :: rest =>
    if c = code '>' then some ([], rest)
    else do
      let (d, after) ← nameCharacter? (c :: rest)
      if isNameCharacter false d then
        let (name, remaining) ← nameRest? fuel after
        pure (d :: name, remaining)
      else none

/-- The name of a group after its opening bracket, and what follows the closing one. -/
def groupName? (cs : List Nat) : Option (List Nat × List Nat) := do
  let (first, rest) ← nameCharacter? cs
  if isNameCharacter true first then
    let (name, remaining) ← nameRest? (rest.length + 1) rest
    pure (first :: name, remaining)
  else none

/-- What an opening parenthesis begins: a group without a name, one with a name, or none. -/
def groupAt? (cs : List Nat) : Option (Option (List Nat)) :=
  match cs with
  | q :: rest =>
    if q ≠ code '?' then some none
    else
      match rest with
      | b :: after =>
        if b = code '<' && !after.head?.any (isOneOf "=!") then
          (groupName? after).map fun (name, _) => some name
        else none
      | [] => none
  | [] => some none

/-- The names of the groups that keep their texts, in the order in which they open. -/
def groupNamesFrom (escaped inClass : Bool) : List Nat → List (Option (List Nat))
  | [] => []
  | c :: cs =>
    if escaped then groupNamesFrom false inClass cs
    else if c = code '\\' then groupNamesFrom true inClass cs
    else if inClass then groupNamesFrom false (c ≠ code ']') cs
    else if c = code '[' then groupNamesFrom false true cs
    else if c = code '(' then (groupAt? cs).toList ++ groupNamesFrom false false cs
    else groupNamesFrom false false cs

/-- The names of the groups of a pattern. -/
def groupNames (pattern : List Nat) : List (Option (List Nat)) :=
  groupNamesFrom false false pattern

end Regex

end FieldValidation
