import FieldValidation.Host.Yaml.Plain

/-!
# Quoted scalars

Between single quotes only the quote is special: two of them stand for one. Between double quotes
a backslash begins an escape. In both, white space around a line end is not part of the text, a
line end is a space, and empty lines are line ends.

## Main definitions

* `Yaml.singleQuoted`, `Yaml.doubleQuoted`: the scalar after its opening quote
-/

namespace FieldValidation

namespace Yaml

/-- Whether a unit may stand between quotes: no control character but the tab. -/
def isQuotable (u : CodeUnit) : Bool := u == unit '\t' || 0x20 ≤ u

/-- The rest of a scalar between single quotes, in at most `fuel` steps: what has been read of it,
last unit first, and the white space that belongs to it unless the line ends. -/
def singleQuotedFrom : (fuel : Nat) → (read held : Text) → Cursor → Except Fault (Text × Cursor)
  | 0, _, _, _ => .error .unclosed
  | fuel + 1, read, held, c =>
    match c.rest with
    | [] => .error .unclosed
    | u :: rest =>
      if u = unit '\'' then
        if rest.head? = some u then singleQuotedFrom fuel (u :: (held ++ read)) [] (c.advance 2)
        else .ok ((held ++ read).reverse, c.advance 1)
      else if u.isBreak then
        let next := c.separation false
        singleQuotedFrom fuel (foldedBreaks (next.line - c.line) ++ read) [] next
      else if c.atDocumentMark then .error .unclosed
      else if !isQuotable u then .error .unprintable
      else if u.isSpaceOrTab then singleQuotedFrom fuel read (u :: held) (c.advance 1)
      else singleQuotedFrom fuel (u :: (held ++ read)) [] (c.advance 1)

/-- The scalar after a single quote, and the place after its closing quote. -/
def singleQuoted (c : Cursor) : Except Fault (Text × Cursor) :=
  singleQuotedFrom (2 * c.rest.length + 1) [] [] c

/-- The escapes of one character, and the code points they stand for. -/
def escapes : List (Char × Nat) :=
  [('0', 0x00), ('a', 0x07), ('b', 0x08), ('t', 0x09), ('\t', 0x09), ('n', 0x0A), ('v', 0x0B),
    ('f', 0x0C), ('r', 0x0D), ('e', 0x1B), (' ', 0x20), ('"', 0x22), ('/', 0x2F), ('\\', 0x5C),
    ('N', 0x85), ('_', 0xA0), ('L', 0x2028), ('P', 0x2029)]

/-- The numbers of hexadecimal digits after the letters of the escapes by number. -/
def hexEscapes : List (Char × Nat) := [('x', 2), ('u', 4), ('U', 8)]

/-- The units of a character given by number. Beyond the last character the halves of the pair are
cut to their width, and from `2 ^ 31` on only the low half counts. -/
def escapedCharacter (n : Nat) : Text :=
  if n < 0x10000 ∨ 0x80000000 ≤ n then [(n % 0x10000).toUInt16]
  else
    [((n - 0x10000) / 0x400 + 0xD800).toUInt16, ((n - 0x10000) % 0x400 + 0xDC00).toUInt16]

/-- The text of an escape after its backslash, and the number of units that it takes. -/
def escape? (t : Text) : Option (Text × Nat) := do
  let u ← t.head?
  match escapes.find? fun (letter, _) => unit letter == u with
  | some (_, n) => return ([n.toUInt16], 1)
  | none =>
    let (_, count) ← hexEscapes.find? fun (letter, _) => unit letter == u
    let digits := t.tail.take count
    guard (digits.length = count)
    guard (digits.all fun d => d.hexValue?.isSome)
    let n := Text.digitsValue 16 (fun d => d.hexValue?.getD 0) digits
    return (escapedCharacter n, count + 1)

/-- The rest of a scalar between double quotes, in at most `fuel` steps: what has been read of it,
last unit first, and the white space that belongs to it unless the line ends. -/
def doubleQuotedFrom : (fuel : Nat) → (read held : Text) → Cursor → Except Fault (Text × Cursor)
  | 0, _, _, _ => .error .unclosed
  | fuel + 1, read, held, c =>
    match c.rest with
    | [] => .error .unclosed
    | u :: rest =>
      if u = unit '"' then .ok ((held ++ read).reverse, c.advance 1)
      else if u = unit '\\' then
        if rest.head?.any CodeUnit.isBreak then
          -- an escaped break joins the lines, and the white space before it counts
          doubleQuotedFrom fuel (held ++ read) [] ((c.advance 1).separation false)
        else
          match escape? rest with
          | some (t, count) =>
            doubleQuotedFrom fuel (t.reverse ++ (held ++ read)) [] (c.advance (count + 1))
          | none => .error .unknownEscape
      else if u.isBreak then
        let next := c.separation false
        doubleQuotedFrom fuel (foldedBreaks (next.line - c.line) ++ read) [] next
      else if c.atDocumentMark then .error .unclosed
      else if !isQuotable u then .error .unprintable
      else if u.isSpaceOrTab then doubleQuotedFrom fuel read (u :: held) (c.advance 1)
      else doubleQuotedFrom fuel (u :: (held ++ read)) [] (c.advance 1)

/-- The scalar after a double quote, and the place after its closing quote. -/
def doubleQuoted (c : Cursor) : Except Fault (Text × Cursor) :=
  doubleQuotedFrom (2 * c.rest.length + 1) [] [] c

end Yaml

end FieldValidation
