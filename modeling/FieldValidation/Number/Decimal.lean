import FieldValidation.Number.Basic

/-!
# Decimal notation and doubles

A decimal numeral stands for an exact rational number. This module takes the double nearest to
it, and finds, for a double, the shortest decimal that reads back as that double.

## Main definitions

* `Decimal`: an integer times a power of ten, with a sign
* `Decimal.nearest`: the nearest double
* `FiniteNumber.shortest`: the fewest digits that read back, nearest to the number of those
-/

namespace FieldValidation

/-- The rational number `digits * 10 ^ exponent`, negated where `negative`. -/
structure Decimal where
  negative : Bool
  digits : Nat
  exponent : Int
  deriving DecidableEq

/-- The decimal exponents beyond which every decimal is out of the range of the doubles, with
room to spare: no double but zero is below `10 ^ -400`, and none is as large as `10 ^ 400`. -/
def decimalRange : Nat := 400

/-- The double nearest to a decimal. Decimals far out of range are told by their exponent alone,
so that no huge power of ten is formed. -/
def Decimal.nearest (x : Decimal) : Number :=
  if x.digits = 0 then .finite (.zero x.negative)
  else if x.exponent > decimalRange then .infinite x.negative
  else if 3 * (-x.exponent - decimalRange) ≥ x.digits.log2 + 1 then .finite (.zero x.negative)
  else .ofRatio x.negative (x.digits * tenTo x.exponent.toNat) (tenTo (-x.exponent).toNat)

/-- The number of decimal digits of a positive natural number. -/
def digitCount (n : Nat) : Nat := (Nat.toDigits 10 n).length

/-- The largest `k` with `10 ^ k ≤ n / d`, for positive `n` and `d`. -/
def log10Ratio (n d : Nat) : Int :=
  if d ≤ n then digitCount (n / d) - 1
  else
    let c := digitCount (d / n)
    if d ≤ n * tenTo (c - 1) then -(c - 1 : Int) else -c

namespace FiniteNumber

/-- Whether a decimal reads back as `x`. -/
def readsBack (x : FiniteNumber) (digits : Nat) (exponent : Int) : Bool :=
  Decimal.nearest ⟨x.negative, digits, exponent⟩ = .finite x

/-- The multiple of `10 ^ exponent` nearest to the magnitude of `x` among its two neighbours on
that grid, provided it reads back as `x`; if only the other one does, that one. A tie goes to
the even multiple. -/
def onGrid? (x : FiniteNumber) (exponent : Int) : Option Decimal :=
  let (n, d) := x.ratio
  let num := n * tenTo (-exponent).toNat
  let den := d * tenTo exponent.toNat
  let low := num / den
  let near := roundDiv num den
  let far := if near = low then low + 1 else low
  if x.readsBack near exponent then some ⟨x.negative, near, exponent⟩
  else if x.readsBack far exponent then some ⟨x.negative, far, exponent⟩
  else none

/-- The decimal with the fewest digits that reads back as `x`, tried from one digit to
seventeen; the exact value of `x`, should none of those do. -/
def shortest (x : FiniteNumber) : Decimal :=
  if x.significand = 0 then ⟨x.negative, 0, 0⟩
  else
    let (n, d) := x.ratio
    let top := log10Ratio n d
    match (List.range 17).findSome? fun (k : Nat) => x.onGrid? (top - k) with
    | some decimal => decimal
    | none =>
      let power := (-x.exponent).toNat
      ⟨x.negative, x.significand * twoTo x.exponent.toNat * (tenTo power / twoTo power),
        min x.exponent 0⟩

end FiniteNumber

end FieldValidation
