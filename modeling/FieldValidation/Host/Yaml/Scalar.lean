import FieldValidation.Number.Written
import FieldValidation.Host.Yaml.Moment

/-!
# Scalars

What a plain scalar stands for: nothing, a truth value, a number, a moment, the merge key, or
itself. The forms are looked for in this order.

## Main definitions

* `Yaml.Scalar`: the values of scalars
* `Yaml.Scalar.ofPlain`: the value of a plain scalar
-/

namespace FieldValidation

namespace Yaml

/-- The value of a scalar. -/
inductive Scalar where
  | null
  | bool (b : Bool)
  | number (x : Number)
  | text (t : Text)
  | moment (m : Moment)
  /-- Data in base 64. -/
  | bytes (bs : List Nat)
  deriving DecidableEq

namespace Scalar

/-- Whether a text is one of some words. -/
def isOneOf (words : List String) (t : Text) : Bool := words.any fun word => Text.ofString word == t

/-- Whether a text spells that there is nothing. -/
def isNull (t : Text) : Bool := isOneOf ["~", "null", "Null", "NULL"] t

/-- The truth value that a text spells. -/
def bool? (t : Text) : Option Bool :=
  if isOneOf ["true", "True", "TRUE"] t then some true
  else if isOneOf ["false", "False", "FALSE"] t then some false
  else none

/-- The value of a whole number without its sign. A zero and a letter before the digits name the
base. -/
def magnitude? (t : Text) : Option Nat :=
  let inBase (base : Nat) (digits : Text) : Option Nat :=
    let isDigitOfBase (u : CodeUnit) : Bool := u.hexValue?.any (· < base)
    if digits.isEmpty || !digits.all isDigitOfBase then none
    else some (Text.digitsValue base (fun u => u.hexValue?.getD 0) digits)
  match Text.dropPrefix? "0b" t, Text.dropPrefix? "0x" t, Text.dropPrefix? "0o" t with
  | some digits, _, _ => inBase 2 digits
  | _, some digits, _ => inBase 16 digits
  | _, _, some digits => inBase 8 digits
  | _, _, _ => inBase 10 t

/-- The whole number that a text spells, unless it is too large for a number. -/
def int? (t : Text) : Option Number := do
  let (negative, unsigned) := Text.takeSign t
  let n ← magnitude? unsigned
  let x := Number.ofInt (if negative then -n else n)
  if x.isFinite then some x else none

/-- What follows an exponent at the front of a text: `e`, an optional sign and digits. A text
without one follows the exponent that is not there. -/
def afterExponent? (t : Text) : Option Text :=
  match t with
  | [] => some []
  | u :: rest =>
    if u = unit 'e' ∨ u = unit 'E' then
      let digits := match rest with
        | s :: after => if s = unit '+' ∨ s = unit '-' then after else rest
        | [] => []
      if digits.head?.any CodeUnit.isDigit then some (digits.dropWhile CodeUnit.isDigit) else none
    else some t

/-- Whether a text is a decimal fraction: digits, and perhaps a point with more digits, or a point
with digits, and then perhaps an exponent. Before a point without digits there is no sign. -/
def isFraction (t : Text) : Bool :=
  let (_, unsigned) := Text.takeSign t
  let tail := match t with
    | u :: rest =>
      if u = unit '.' then
        if rest.head?.any CodeUnit.isDigit then some (rest.dropWhile CodeUnit.isDigit) else none
      else if unsigned.head?.any CodeUnit.isDigit then
        match unsigned.dropWhile CodeUnit.isDigit with
        | p :: after =>
          some (if p = unit '.' then after.dropWhile CodeUnit.isDigit else p :: after)
        | [] => some []
      else none
    | [] => none
  (tail.bind afterExponent?).any List.isEmpty

/-- The number that a text spells with a point or an exponent, unless it is too large, or the
infinity or the not-a-number that it names. -/
def float? (t : Text) : Option Number :=
  let (negative, unsigned) := Text.takeSign t
  if isOneOf [".inf", ".Inf", ".INF"] unsigned then some (.infinite negative)
  else if isOneOf [".nan", ".NaN", ".NAN"] t then some .nan
  else if isFraction t then
    let x := Number.ofText t
    if x.isFinite then some x else none
  else none

/-- The key under which other mappings are merged. -/
def mergeKey : Text := "<<"

/-- The value of a plain scalar, and whether it is the merge key. -/
def ofPlain (t : Text) : Scalar × Bool :=
  if isNull t then (.null, false)
  else
    match bool? t, int? t, float? t, Moment.read? t with
    | some b, _, _, _ => (.bool b, false)
    | _, some x, _, _ => (.number x, false)
    | _, _, some x, _ => (.number x, false)
    | _, _, _, some m => (.moment m, false)
    | _, _, _, _ => (.text t, t == mergeKey)

/-- The place of a character among the sixty-four that stand for six bits each. -/
def sixBits? (u : CodeUnit) : Option Nat :=
  let n := u.toNat
  if unit 'A' ≤ u ∧ u ≤ unit 'Z' then some (n - 65)
  else if unit 'a' ≤ u ∧ u ≤ unit 'z' then some (n - 71)
  else if u.isDigit then some (n + 4)
  else if u = unit '+' then some 62
  else if u = unit '/' then some 63
  else none

/-- The bytes in a list of groups of six bits. At the end of the list bits may be left over. An
empty list has three bytes, all zero. -/
def bytesOfGroups : List Nat → List Nat
  | [] => [0, 0, 0]
  | [_] => []
  | [a, b] => [(a * 64 + b) / 16]
  | [a, b, c] => let n := (a * 64 + b) * 64 + c; [n / 1024, n / 4 % 256]
  | [a, b, c, d] =>
    let n := ((a * 64 + b) * 64 + c) * 64 + d
    [n / 65536, n / 256 % 256, n % 256]
  | a :: b :: c :: d :: rest =>
    let n := ((a * 64 + b) * 64 + c) * 64 + d
    n / 65536 :: n / 256 % 256 :: n % 256 :: bytesOfGroups rest

/-- The bytes that a text spells in base 64. Line ends do not count; with the padding, the
characters make up whole bytes. -/
def bytes? (t : Text) : Option (List Nat) :=
  let marks := t.filter fun u => u != unit '\n' && u != unit '\r'
  let digits := marks.filter (· != unit '=')
  if marks.length % 4 = 0 then digits.mapM sixBits? |>.map bytesOfGroups else none

/-- A scalar as a key. -/
def written : Scalar → Text
  | .null => "null"
  | .bool b => if b then "true" else "false"
  | .number x => x.written
  | .text t => t
  | .moment m => m.written
  | .bytes bs => Text.join [unit ','] (bs.map Text.ofNat)

end Scalar

end Yaml

end FieldValidation
