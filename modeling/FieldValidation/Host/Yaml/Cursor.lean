import FieldValidation.Text.Basic

/-!
# Places in a document

A cursor is a place in a text that is read from front to back: what is left of the text, the line
and the column, how far the line is indented, and whether a tab has been skipped in it.

## Main definitions

* `Yaml.Cursor`: a place
* `Yaml.Cursor.separation`: the place after blanks, line ends and comments
* `Yaml.Cursor.atDocumentMark`: whether a document ends here
-/

namespace FieldValidation

namespace CodeUnit

/-- The units that end a line. -/
def isBreak (u : CodeUnit) : Bool := u == unit '\n' || u == unit '\r'

/-- The units that are white space within a line. -/
def isSpaceOrTab (u : CodeUnit) : Bool := u == unit ' ' || u == unit '\t'

/-- The units that separate. -/
def isSeparator (u : CodeUnit) : Bool := isSpaceOrTab u || isBreak u

/-- The units that build collections between brackets. -/
def isFlowMark (u : CodeUnit) : Bool :=
  u == unit ',' || u == unit '[' || u == unit ']' || u == unit '\x7b' || u == unit '\x7d'

end CodeUnit

namespace Yaml

/-- A place in a document. -/
structure Cursor where
  /-- What has not been read. -/
  rest : Text
  line : Nat
  /-- The number of units between the beginning of the line and the place. -/
  column : Nat
  /-- The number of spaces that the line begins with. -/
  indent : Nat
  /-- Whether a tab has been skipped in this line. -/
  tabbed : Bool

namespace Cursor

/-- The beginning of a text. -/
def start (t : Text) : Cursor := ⟨t, 0, 0, 0, false⟩

/-- Whether nothing is left. -/
def atEnd (c : Cursor) : Bool := c.rest.isEmpty

/-- Whether the next unit satisfies `p`. -/
def nextIs (c : Cursor) (p : CodeUnit → Bool) : Bool := c.rest.head?.any p

/-- Whether the next unit is the given character. -/
def isAt (c : Cursor) (char : Char) : Bool := c.nextIs (· == unit char)

/-- Whether the unit after the next satisfies `p`. -/
def secondIs (c : Cursor) (p : CodeUnit → Bool) : Bool := c.rest.tail.head?.any p

/-- The place `n` units further in the line. -/
def advance (c : Cursor) (n : Nat) : Cursor :=
  { c with rest := c.rest.drop n, column := c.column + n }

/-- The units before the first that satisfies `p`, and the place there. -/
def takeUntil (c : Cursor) (p : CodeUnit → Bool) : Text × Cursor :=
  let taken := c.rest.takeWhile fun u => !p u
  (taken, c.advance taken.length)

/-- The place after the spaces and tabs. -/
def skipBlanks (c : Cursor) : Cursor := (c.takeUntil fun u => !u.isSpaceOrTab).2

/-- The place at the end of the line. -/
def skipLine (c : Cursor) : Cursor := (c.takeUntil CodeUnit.isBreak).2

/-- The place at the beginning of the next line, from the end of a line. A carriage return and the
line feed after it are one line end. -/
def newLine (c : Cursor) : Cursor :=
  let rest := match c.rest with
    | u :: v :: after => if u = unit '\r' ∧ v = unit '\n' then after else v :: after
    | _ => []
  ⟨rest, c.line + 1, 0, c.indent, false⟩

/-- The place after at most `limit` spaces at the beginning of a line, which are its indentation. -/
def skipIndentation (c : Cursor) (limit : Nat) : Cursor :=
  let spaces := (c.rest.take limit).takeWhile (· == unit ' ')
  { c.advance spaces.length with indent := spaces.length }

/-- The place after all the spaces at the beginning of a line. -/
def skipAllIndentation (c : Cursor) : Cursor := c.skipIndentation c.rest.length

/-- The place after what separates, in at most `fuel` lines. -/
def separationFrom (comments : Bool) : (fuel : Nat) → Cursor → Cursor
  | 0, c => c
  | fuel + 1, c =>
    let (blanks, afterBlanks) := c.takeUntil fun u => !u.isSpaceOrTab
    let here := { afterBlanks with tabbed := c.tabbed || blanks.contains (unit '\t') }
    let lineEnd := if comments && here.isAt '#' then here.skipLine else here
    if lineEnd.nextIs CodeUnit.isBreak then
      separationFrom comments fuel lineEnd.newLine.skipAllIndentation
    else lineEnd

/-- The place after blanks, line ends and, if they are looked for, comments. -/
def separation (c : Cursor) (comments : Bool) : Cursor :=
  separationFrom comments (c.rest.length + 1) c

/-- Whether three times one unit, the mark of an end or a beginning of a document, stand here and
nothing on either side of them. -/
def atDocumentMark (c : Cursor) : Bool :=
  c.column == 0 &&
    match c.rest with
    | a :: b :: d :: after =>
      (a == unit '-' || a == unit '.') && a == b && b == d && after.head?.all CodeUnit.isSeparator
    | _ => false

end Cursor

end Yaml

end FieldValidation
