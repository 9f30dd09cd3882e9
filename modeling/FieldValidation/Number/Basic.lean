/-!
# Numbers

Numbers are the IEEE 754 doubles, held exactly: a finite number is a sign, a significand and a
power of two, in its one canonical form. Comparison and the integer test are therefore exact
integer arithmetic.

## Main definitions

* `Number`: not-a-number, the infinities and the finite doubles
* `Number.ofRatio`: the double nearest to a quotient, a tie going to the even significand
* `Number.compare?`: the numerical order, undefined where not-a-number takes part
* `Number.toInt?`: the integer that a number is, if it is one
-/

namespace FieldValidation

/-- A power of two. -/
def twoTo (k : Nat) : Nat := Nat.pow 2 k

/-- A power of ten. -/
def tenTo (k : Nat) : Nat := Nat.pow 10 k

/-- A finite double: `significand * 2 ^ exponent`, negated where `negative`. Both zeros have
significand zero. -/
structure FiniteNumber where
  negative : Bool
  significand : Nat
  exponent : Int
  significand_lt : significand < twoTo 53
  le_exponent : -1074 ≤ exponent
  exponent_le : exponent ≤ 971
  canonical : twoTo 52 ≤ significand ∨ exponent = -1074
  deriving DecidableEq

/-- A double. -/
inductive Number where
  | nan
  | infinite (negative : Bool)
  | finite (x : FiniteNumber)
  deriving DecidableEq

namespace FiniteNumber

/-- Zero, of either sign. -/
def zero (negative : Bool) : FiniteNumber :=
  ⟨negative, 0, -1074, by decide, by decide, by decide, .inr rfl⟩

instance : Inhabited FiniteNumber := ⟨zero false⟩

/-- The number as a multiple of `2 ^ (-1074)`, the distance between the smallest doubles. -/
def scaled (x : FiniteNumber) : Int :=
  let magnitude : Int := (x.significand * twoTo (x.exponent + 1074).toNat : Nat)
  if x.negative then -magnitude else magnitude

/-- The magnitude as a quotient of natural numbers. -/
def ratio (x : FiniteNumber) : Nat × Nat :=
  (x.significand * twoTo x.exponent.toNat, twoTo (-x.exponent).toNat)

/-- The integer that the number is, if it is one. -/
def toInt? (x : FiniteNumber) : Option Int :=
  let (n, d) := x.ratio
  if n % d = 0 then some (if x.negative then -(n / d : Nat) else (n / d : Nat)) else none

/-- The integer that is left of the number without its fraction. -/
def truncated (x : FiniteNumber) : Int :=
  let (n, d) := x.ratio
  if x.negative then -(n / d : Nat) else (n / d : Nat)

end FiniteNumber

/-- The quotient rounded to the nearest natural number, a tie going to the even one. -/
def roundDiv (n d : Nat) : Nat :=
  let q := n / d
  let r := n % d
  if 2 * r < d then q
  else if d < 2 * r then q + 1
  else if q % 2 = 0 then q else q + 1

/-- The largest `k` with `2 ^ k ≤ n / d`, for positive `n` and `d`. -/
def log2Ratio (n d : Nat) : Int :=
  let k : Int := (n.log2 : Int) - d.log2
  if d * twoTo k.toNat ≤ n * twoTo (-k).toNat then k else k - 1

namespace Number

instance : Inhabited Number := ⟨.nan⟩

/-- Zero. -/
def zero : Number := .finite (.zero false)

/-- The number with the given significand and exponent, infinite where the exponent is too large
for a double. -/
def ofCanonical (negative : Bool) (significand : Nat) (exponent : Int) : Number :=
  if h : significand < twoTo 53 ∧ -1074 ≤ exponent ∧ exponent ≤ 971 ∧
      (twoTo 52 ≤ significand ∨ exponent = -1074) then
    .finite ⟨negative, significand, exponent, h.1, h.2.1, h.2.2.1, h.2.2.2⟩
  else .infinite negative

/-- The double nearest to `n / d`, for a positive `d`; a tie goes to the even significand, and
from half a unit above the largest double on the result is infinite. -/
def ofRatio (negative : Bool) (n d : Nat) : Number :=
  if n = 0 then .finite (.zero negative)
  else
    let e := max (log2Ratio n d - 52) (-1074)
    let m := roundDiv (n * twoTo (-e).toNat) (d * twoTo e.toNat)
    if m = twoTo 53 then ofCanonical negative (twoTo 52) (e + 1) else ofCanonical negative m e

/-- The double nearest to an integer. -/
def ofInt (i : Int) : Number := ofRatio (i < 0) i.natAbs 1

/-- The double nearest to a natural number. -/
def ofNat (n : Nat) : Number := ofRatio false n 1

/-- The numerical order of two numbers; the two zeros are equal, and not-a-number is ordered
with nothing. -/
def compare? : Number → Number → Option Ordering
  | .nan, _ => none
  | _, .nan => none
  | .infinite a, .infinite b => some (if a = b then .eq else if a then .lt else .gt)
  | .infinite a, .finite _ => some (if a then .lt else .gt)
  | .finite _, .infinite b => some (if b then .gt else .lt)
  | .finite x, .finite y => some (compare x.scaled y.scaled)

/-- Numerical equality: the zeros are equal, and not-a-number differs from itself. -/
def equals (x y : Number) : Bool := compare? x y == some .eq

/-- Whether the number is neither infinite nor not-a-number. -/
def isFinite : Number → Bool
  | .finite _ => true
  | _ => false

/-- The integer that the number is, if it is one. -/
def toInt? : Number → Option Int
  | .finite x => x.toInt?
  | _ => none

/-- Whether the number is an integer. -/
def isInteger (x : Number) : Bool := x.toInt?.isSome

/-- The largest integer below which every integer is a double and no other integer rounds to
one of them. -/
def maxSafeInteger : Nat := twoTo 53 - 1

/-- Whether the number is an integer of at most `maxSafeInteger` in magnitude. -/
def isSafeInteger (x : Number) : Bool :=
  match x.toInt? with
  | some i => i.natAbs ≤ maxSafeInteger
  | none => false

/-- Whether the number is a zero. -/
def isZero : Number → Bool
  | .finite x => x.significand == 0
  | _ => false

end Number

end FieldValidation
