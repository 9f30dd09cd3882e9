/-!
# Case ranges

The case mappings of Unicode change long runs of characters by one and the same amount, either
every character of the run or every second one. A table of such runs is a mapping on code points.
-/

namespace FieldValidation.Unicode

/-- The code points `first, first + step, …, last`, each mapped to itself plus `shift`. -/
structure CaseRange where
  first : Nat
  last : Nat
  step : Nat
  shift : Int
  deriving DecidableEq

namespace CaseRange

/-- Whether the range changes `c`. -/
def contains (r : CaseRange) (c : Nat) : Bool :=
  r.first ≤ c && c ≤ r.last && (c - r.first) % r.step == 0

/-- The image of `c` under the first range of the table that changes it; `c` if none does. -/
def mapCodePoint (table : List CaseRange) (c : Nat) : Nat :=
  match table.find? (·.contains c) with
  | some r => (c + r.shift).toNat
  | none => c

end CaseRange

/-- Whether one of the inclusive ranges holds `c`. -/
def inRanges (ranges : List (Nat × Nat)) (c : Nat) : Bool :=
  ranges.any fun (first, last) => first ≤ c && c ≤ last

end FieldValidation.Unicode
