import FieldValidation.Host.Yaml.Plain

/-!
# Block scalars

A scalar that begins with a bar is the indented lines below it as they stand; one that begins with
an angle bracket is those lines folded, where a line that begins with white space is never joined
to its neighbours. Line ends after the last line are dropped but for one, or all dropped, or all
kept.

## Main definitions

* `Yaml.BlockMark`: what the first line of a block scalar says
* `Yaml.blockScalar?`: the block scalar at a place
-/

namespace FieldValidation

namespace Yaml

/-- What becomes of the line ends after the last line. -/
inductive Chomping where
  | clip
  | strip
  | keep
  deriving DecidableEq

/-- What the first line of a block scalar says: whether lines are folded, what becomes of the line
ends after the last line, and by how much the lines are indented, if that is said. -/
structure BlockMark where
  folds : Bool
  chomping : Chomping
  width : Option Nat

namespace BlockMark

/-- The mark with the indicators in the units left, and the place after them. Each kind of
indicator is given once at most. -/
def readIndicators : (fuel : Nat) → BlockMark → Cursor → Except Fault (BlockMark × Cursor)
  | 0, mark, c => .ok (mark, c)
  | fuel + 1, mark, c =>
    match c.rest with
    | [] => .ok (mark, c)
    | u :: _ =>
      if u = unit '+' ∨ u = unit '-' then
        if mark.chomping = .clip then
          let chomping := if u = unit '+' then Chomping.keep else .strip
          readIndicators fuel { mark with chomping } (c.advance 1)
        else .error .malformedBlockMark
      else if u.isDigit then
        if mark.width.isNone && u != unit '0' then
          readIndicators fuel { mark with width := some u.digitValue } (c.advance 1)
        else .error .malformedBlockMark
      else .ok (mark, c)

end BlockMark

/-- What has been read of a block scalar: its text, last unit first; the empty lines since its last
line; whether there was a line; and whether the last line began with white space. -/
structure BlockText where
  read : Text
  empties : Nat
  begun : Bool
  spaced : Bool

namespace BlockText

/-- A number of line ends. -/
def breaks (n : Nat) : Text := List.replicate n (unit '\n')

/-- The line ends of the empty lines, and before them that of the last line, if there was one. -/
def pendingBreaks (block : BlockText) : Text :=
  breaks (if block.begun then block.empties + 1 else block.empties)

/-- What stands between what has been read and the next line; `spaced` tells whether that begins
with white space. -/
def joint (block : BlockText) (folds spaced : Bool) : Text :=
  if !folds || spaced then block.pendingBreaks
  else if block.spaced then breaks (block.empties + 1)
  else if block.empties = 0 then if block.begun then [unit ' '] else []
  else breaks block.empties

/-- The text with one more line. -/
def addLine (block : BlockText) (folds : Bool) (line : Text) : BlockText :=
  let spaced := line.head?.any CodeUnit.isSpaceOrTab
  { read := line.reverse ++ (block.joint folds spaced ++ block.read)
    empties := 0
    begun := true
    spaced := folds && spaced }

/-- The text when there is no further line. -/
def close (block : BlockText) (chomping : Chomping) : Text :=
  let ends := match chomping with
    | .keep => block.pendingBreaks
    | .clip => breaks (if block.begun then 1 else 0)
    | .strip => []
  block.read.reverse ++ ends

end BlockText

/-- The lines of a block scalar from the end of the line before them on, in at most `fuel` steps.
Lines are indented by `indent`; unless that is fixed, by as much as the first line that is not
empty, and at least by `indent`. -/
def blockLines (mark : BlockMark) :
    (fuel : Nat) → (isFixed : Bool) → (indent : Nat) → BlockText → Cursor →
      Except Fault (Text × Cursor)
  | 0, _, _, block, c => .ok (block.close mark.chomping, c)
  | fuel + 1, isFixed, indent, block, c =>
    if c.atEnd then .ok (block.read.reverse, c)
    else
      let lineStart := c.newLine
      let c := lineStart.skipIndentation (if isFixed then indent else lineStart.rest.length)
      let indent := if isFixed then indent else max indent c.indent
      if c.nextIs CodeUnit.isBreak then
        blockLines mark fuel isFixed indent { block with empties := block.empties + 1 } c
      else if c.indent < indent then .ok (block.close mark.chomping, c)
      else if indent = 0 ∧ mark.width = none ∧ !c.atEnd then .error .unindentedBlock
      else
        let (line, next) := c.takeUntil CodeUnit.isBreak
        if isPrintable line then
          blockLines mark fuel true indent (block.addLine mark.folds line) next
        else .error .unprintable

/-- The block scalar at a place and the place after it; `none` if there is none. -/
def blockScalar? (indent : Nat) (c : Cursor) : Except Fault (Option (Text × Cursor)) :=
  if !(c.isAt '|' || c.isAt '>') then .ok none
  else do
    let (mark, afterMark) ←
      BlockMark.readIndicators c.rest.length ⟨c.isAt '>', .clip, none⟩ (c.advance 1)
    let afterBlanks := afterMark.skipBlanks
    let hasBlank := afterMark.nextIs CodeUnit.isSpaceOrTab
    let lineEnd := if hasBlank && afterBlanks.isAt '#' then afterBlanks.skipLine else afterBlanks
    unless lineEnd.atEnd || lineEnd.nextIs CodeUnit.isBreak do
      throw .malformedBlockMark
    let indent := match mark.width with
      | some width => indent + width - 1
      | none => indent
    let isFixed := mark.width.isSome
    some <$> blockLines mark (c.rest.length + 1) isFixed indent ⟨[], 0, false, false⟩ lineEnd

end Yaml

end FieldValidation
