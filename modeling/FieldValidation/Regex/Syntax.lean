import FieldValidation.Regex.CharacterSet
import FieldValidation.Text.Blank
import FieldValidation.Unicode.FoldTable
import FieldValidation.Unicode.UpperTable

/-!
# Regular expressions

The parts a regular expression is made of, and the flags that change what they mean.

## Main definitions

* `Regex.Flags`: the flags, and how they are read
* `Regex.Node`: a regular expression as a tree
-/

namespace FieldValidation

namespace Regex

/-- The flags of a regular expression, as far as they decide whether it matches. -/
structure Flags where
  /-- Letter case does not count. -/
  ignoreCase : Bool
  /-- Line ends bound the anchors. -/
  multiline : Bool
  /-- The dot stands for line ends too. -/
  dotAll : Bool
  /-- The text is read by code points, and the pattern strictly. -/
  unicode : Bool
  /-- Classes are sets that can be combined. -/
  sets : Bool
  /-- A match begins at the start. -/
  sticky : Bool
  deriving DecidableEq

namespace Flags

/-- The letters that are flags. -/
def letters : Text := "dgimsuvy"

/-- The flags that letters stand for; no letter twice, and not both kinds of Unicode reading. -/
def parse? (t : Text) : Option Flags :=
  if !t.all (letters.contains ·) || t.eraseDups.length ≠ t.length then none
  else
    let on (c : Char) : Bool := t.contains (unit c)
    if on 'u' && on 'v' then none
    else some
      { ignoreCase := on 'i', multiline := on 'm', dotAll := on 's',
        unicode := on 'u' || on 'v', sets := on 'v', sticky := on 'y' }

/-- The code points that case folding changes, with their images. -/
def foldedPairs : List (Nat × Nat) := CharacterSet.casePairs Unicode.foldRanges

/-- The code units that upper-casing changes, with their images. -/
def upperPairs : List (Nat × Nat) := CharacterSet.casePairs Unicode.upperUnitRanges

/-- The set with all characters that differ from its own only in case, where case does not
count. -/
def close (flags : Flags) (s : CharacterSet) : CharacterSet :=
  if !flags.ignoreCase then s
  else s.closeOverCase (if flags.unicode then foldedPairs else upperPairs)

/-- The character that stands for all that differ from `c` only in case, if case is
disregarded. -/
def canonical (flags : Flags) (c : Nat) : Nat :=
  if !flags.ignoreCase then c
  else if flags.unicode then Unicode.CaseRange.mapCodePoint Unicode.foldRanges c
  else Unicode.CaseRange.mapCodePoint Unicode.upperUnitRanges c

/-- The characters that words are made of: ASCII letters, digits and the underscore, and what
differs from them only in case. -/
def wordCharacters (flags : Flags) : CharacterSet :=
  let ascii : CharacterSet := [(0x30, 0x39), (0x41, 0x5A), (0x5F, 0x5F), (0x61, 0x7A)]
  if flags.unicode && flags.ignoreCase then
    CharacterSet.union ascii [(0x17F, 0x17F), (0x212A, 0x212A)]
  else ascii

end Flags

/-- The line ends. -/
def lineEnds : CharacterSet := [(0x0A, 0x0A), (0x0D, 0x0D), (0x2028, 0x2029)]

/-- The decimal digits. -/
def digits : CharacterSet := [(0x30, 0x39)]

/-- The blanks. -/
def blanks : CharacterSet :=
  [(0x09, 0x0D), (0x20, 0x20), (0xA0, 0xA0), (0x1680, 0x1680), (0x2000, 0x200A),
    (0x2028, 0x2029), (0x202F, 0x202F), (0x205F, 0x205F), (0x3000, 0x3000), (0xFEFF, 0xFEFF)]

/-- A place in the text that matches without a character. -/
inductive Anchor where
  | start
  | finish
  | wordBoundary
  | noWordBoundary
  deriving DecidableEq

/-- A regular expression. -/
inductive Node where
  | empty
  /-- One character of a set. -/
  | characters (s : CharacterSet)
  | sequence (first second : Node)
  | either (first second : Node)
  | anchor (a : Anchor)
  /-- A group whose text is kept under its number. -/
  | capture (index : Nat) (body : Node)
  /-- The text kept under a number once more. -/
  | reference (index : Nat)
  /-- A look ahead or behind, wanted or unwanted. -/
  | look (ahead wanted : Bool) (body : Node)
  /-- A repetition; the groups numbered from `firstGroup` up to below `endGroup` are inside and are
  forgotten in every round. -/
  | repetition (body : Node) (least : Nat) (most : Option Nat) (greedy : Bool)
      (firstGroup endGroup : Nat)

namespace Node

/-- A string of characters. -/
def ofString (toSet : Nat → CharacterSet) : List Nat → Node
  | [] => .empty
  | [c] => .characters (toSet c)
  | c :: cs => .sequence (.characters (toSet c)) (ofString toSet cs)

end Node

end Regex

end FieldValidation
