import FieldValidation.Unicode.CaseRange

/-!
# Sets of characters

A set of characters is a list of ranges in ascending order, apart from one another.

## Main definitions

* `CharacterSet`: a set of characters
* `CharacterSet.ofRanges`: the set of all characters in some ranges
* `CharacterSet.union`, `CharacterSet.complement`, `CharacterSet.inter`, `CharacterSet.diff`
* `CharacterSet.closeOverCase`: a set with all characters that differ from its own only in case
-/

namespace FieldValidation

/-- A set of characters, as ranges in ascending order. -/
abbrev CharacterSet := List (Nat × Nat)

namespace CharacterSet

/-- The largest code point. -/
def maxCodePoint : Nat := 0x10FFFF

/-- Whether a character is in the set. -/
def has (s : CharacterSet) (c : Nat) : Bool := s.any fun (first, last) => first ≤ c && c ≤ last

/-- A range and those after it, in ascending order, those that meet joined into one. -/
def joinFrom (first last : Nat) : List (Nat × Nat) → CharacterSet
  | [] => [(first, last)]
  | (f, l) :: rest =>
    if f ≤ last + 1 then joinFrom first (max last l) rest else (first, last) :: joinFrom f l rest

/-- Ranges in ascending order, those that meet joined into one. -/
def join : List (Nat × Nat) → CharacterSet
  | [] => []
  | (first, last) :: rest => joinFrom first last rest

/-- The set of all characters in some ranges. -/
def ofRanges (ranges : List (Nat × Nat)) : CharacterSet :=
  join (ranges.mergeSort fun a b => a.1 < b.1 || (a.1 == b.1 && a.2 ≤ b.2))

/-- The set of one character. -/
def single (c : Nat) : CharacterSet := [(c, c)]

/-- The characters of either set. -/
def union (s t : CharacterSet) : CharacterSet := ofRanges (s ++ t)

/-- The characters from `first` on that are in none of the ranges. -/
def gapsFrom (first : Nat) : CharacterSet → CharacterSet
  | [] => if first ≤ maxCodePoint then [(first, maxCodePoint)] else []
  | (f, l) :: rest =>
    if first < f then (first, f - 1) :: gapsFrom (l + 1) rest else gapsFrom (l + 1) rest

/-- The characters that are not in the set. -/
def complement (s : CharacterSet) : CharacterSet := gapsFrom 0 s

/-- The characters of both sets. -/
def inter (s t : CharacterSet) : CharacterSet := complement (union (complement s) (complement t))

/-- The characters of the first set that are not in the second. -/
def diff (s t : CharacterSet) : CharacterSet := inter s (complement t)

/-- The characters that a table of case ranges changes, each with its image. -/
def casePairs (table : List Unicode.CaseRange) : List (Nat × Nat) :=
  table.flatMap fun r =>
    (List.range ((r.last - r.first) / r.step + 1)).map fun k =>
      let c := r.first + k * r.step
      (c, ((c : Int) + r.shift).toNat)

/-- The set with all characters that have the same image under a table as one of its own, an
unchanged character being its own image. -/
def closeOverCase (pairs : List (Nat × Nat)) (s : CharacterSet) : CharacterSet :=
  let withImages := union s ((pairs.filter (s.has ·.1)).map fun (_, image) => (image, image))
  union withImages ((pairs.filter (withImages.has ·.2)).map fun (c, _) => (c, c))

end CharacterSet

end FieldValidation
