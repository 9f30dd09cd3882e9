import FieldValidation.Host.Yaml.Cursor
import FieldValidation.Host.Yaml.Fault

/-!
# Plain scalars

A scalar without quotes ends before a colon or a number sign that stands apart, before a bracket
or comma if it stands between brackets, and before a line that is not indented enough. A line end
within it is a space, and empty lines are line ends.

## Main definitions

* `Yaml.isPrintable`: the texts that scalars without quotes may be
* `Yaml.foldedBreaks`: what line ends within a scalar become
* `Yaml.plain?`: the plain scalar at a place
-/

namespace FieldValidation

namespace Yaml

/-- Whether a character may stand in a document outside quotes. Surrogates stand in pairs. -/
def isPrintableCharacter (n : Nat) : Bool :=
  n == 0x09 || n == 0x0A || n == 0x0D || (0x20 ≤ n && n ≤ 0x7E) || n == 0x85 ||
    (0xA0 ≤ n && n ≤ 0xD7FF) || (0xE000 ≤ n && n ≤ 0xFFFD) || 0x10000 ≤ n

/-- Whether all characters of a text are printable. -/
def isPrintable (t : Text) : Bool := (Text.codePoints t).all isPrintableCharacter

/-- What `lines` line ends one after the other are in a scalar that is folded: one is a space, and
of several the first is left out. -/
def foldedBreaks : (lines : Nat) → Text
  | 0 => []
  | 1 => [unit ' ']
  | n + 2 => List.replicate (n + 1) (unit '\n')

/-- The characters that no plain scalar begins with. -/
def isIndicator (u : CodeUnit) : Bool :=
  u.isFlowMark || (Text.ofString "#&*!|>'\"%@`").contains u

/-- Whether what follows a mark sets it apart. -/
def setsApart (inFlow : Bool) (u : CodeUnit) : Bool := u.isSeparator || (inFlow && u.isFlowMark)

/-- Whether a plain scalar may begin here. -/
def isPlainStart (inFlow : Bool) (c : Cursor) : Bool :=
  !c.atEnd && !c.nextIs CodeUnit.isSeparator && !c.nextIs isIndicator &&
    !((c.isAt '?' || c.isAt '-') && c.secondIs (setsApart inFlow))

/-- Whether a plain scalar ends here, `apart` telling whether a separator stands before. -/
def isPlainEnd (inFlow apart : Bool) (c : Cursor) : Bool :=
  if c.isAt ':' then c.secondIs (setsApart inFlow)
  else if c.isAt '#' then apart
  else c.atDocumentMark || (inFlow && c.nextIs CodeUnit.isFlowMark)

/-- The rest of a plain scalar, in at most `fuel` steps: what has been read of it, last unit
first, and what belongs to it if more of it comes. -/
def plainFrom (inFlow : Bool) (indent : Int) :
    (fuel : Nat) → (read held : Text) → (apart : Bool) → Cursor → Text × Cursor
  | 0, read, _, _, c => (read.reverse, c)
  | fuel + 1, read, held, apart, c =>
    match c.rest with
    | [] => (read.reverse, c)
    | u :: _ =>
      if isPlainEnd inFlow apart c then (read.reverse, c)
      else if u.isBreak then
        let next := c.separation false
        if indent ≤ next.indent then
          plainFrom inFlow indent fuel read (foldedBreaks (next.line - c.line)) true next
        else (read.reverse, c)
      else if u.isSpaceOrTab then
        plainFrom inFlow indent fuel read (u :: held) true (c.advance 1)
      else plainFrom inFlow indent fuel (u :: (held ++ read)) [] false (c.advance 1)

/-- The plain scalar at a place, and the place after it; `none` if there is none. -/
def plain? (inFlow : Bool) (indent : Int) (c : Cursor) : Except Fault (Option (Text × Cursor)) :=
  if !isPlainStart inFlow c then .ok none
  else
    match plainFrom inFlow indent (2 * c.rest.length) [] [] false c with
    | ([], _) => .ok none
    | (t, next) => if isPrintable t then .ok (some (t, next)) else .error .unprintable

end Yaml

end FieldValidation
