import FieldValidation.Value.Basic

/-!
# Reading JSON

A JSON document is one value with nothing but spaces, tabs and line ends around it. Of entries
under one key the last one counts. A number too large for a double is infinite.

## Main definitions

* `Json.read?`: the value of a document
-/

namespace FieldValidation

namespace Json

/-- The text without the blanks it begins with. -/
def skipBlanks (t : Text) : Text :=
  t.dropWhile fun u => u == unit ' ' || u == unit '\n' || u == unit '\r' || u == unit '\t'

/-- The digits a text begins with, and what follows them. -/
def takeDigits (t : Text) : Text × Text :=
  (t.takeWhile CodeUnit.isDigit, t.dropWhile CodeUnit.isDigit)

/-- The fraction of a number: a point and at least one digit, or nothing. -/
def takeFraction? : Text → Option (Text × Text)
  | [] => some ([], [])
  | u :: rest =>
    if u = unit '.' then
      let (digits, after) := takeDigits rest
      if digits.isEmpty then none else some (u :: digits, after)
    else some ([], u :: rest)

/-- The exponent of a number: `e`, an optional sign and at least one digit, or nothing. -/
def takeExponent? : Text → Option (Text × Text)
  | [] => some ([], [])
  | u :: rest =>
    if u = unit 'e' ∨ u = unit 'E' then
      let (sign, unsigned) := match rest with
        | s :: after => if s = unit '+' ∨ s = unit '-' then ([s], after) else ([], rest)
        | [] => ([], [])
      let (digits, after) := takeDigits unsigned
      if digits.isEmpty then none else some (u :: (sign ++ digits), after)
    else some ([], u :: rest)

/-- A number: an optional minus sign, digits without a leading zero, a fraction, an exponent. -/
def number? (t : Text) : Option (Value × Text) :=
  let (sign, unsigned) := match t with
    | u :: rest => if u = unit '-' then ([u], rest) else ([], t)
    | [] => ([], [])
  let (whole, afterWhole) := takeDigits unsigned
  if whole.isEmpty || (whole.length > 1 && whole.head? == some (unit '0')) then none
  else do
    let (fraction, afterFraction) ← takeFraction? afterWhole
    let (power, rest) ← takeExponent? afterFraction
    pure (.number (.ofText (sign ++ whole ++ fraction ++ power)), rest)

/-- The code unit spelt by four hexadecimal digits. -/
def hex4? : Text → Option (CodeUnit × Text)
  | a :: b :: c :: d :: rest => do
    let a ← a.hexValue?
    let b ← b.hexValue?
    let c ← c.hexValue?
    let d ← d.hexValue?
    pure ((((a * 16 + b) * 16 + c) * 16 + d).toUInt16, rest)
  | _ => none

/-- The unit that a one-letter escape stands for. -/
def escape? (u : CodeUnit) : Option CodeUnit :=
  if u = unit '"' ∨ u = unit '\\' ∨ u = unit '/' then some u
  else if u = unit 'b' then some 0x08
  else if u = unit 'f' then some 0x0C
  else if u = unit 'n' then some 0x0A
  else if u = unit 'r' then some 0x0D
  else if u = unit 't' then some 0x09
  else none

/-- The rest of a string after its opening quote, and what follows the closing one. -/
def stringBody? : Nat → Text → Option (Text × Text)
  | 0, _ => none
  | _, [] => none
  | fuel + 1, u :: rest =>
    if u = unit '"' then some ([], rest)
    else if u < 0x20 then none
    else if u = unit '\\' then
      match rest with
      | [] => none
      | e :: after => do
        let (v, after) ← if e = unit 'u' then hex4? after else (escape? e).map (·, after)
        let (body, remaining) ← stringBody? fuel after
        pure (v :: body, remaining)
    else do
      let (body, remaining) ← stringBody? fuel rest
      pure (u :: body, remaining)

/-- A string. -/
def string? (t : Text) : Option (Text × Text) :=
  match t with
  | u :: rest => if u = unit '"' then stringBody? t.length rest else none
  | [] => none

/-- One of the words that are values. -/
def word? (t : Text) : Option (Value × Text) :=
  match Text.dropPrefix? "true" t, Text.dropPrefix? "false" t, Text.dropPrefix? "null" t with
  | some rest, _, _ => some (.bool true, rest)
  | _, some rest, _ => some (.bool false, rest)
  | _, _, some rest => some (.null, rest)
  | _, _, _ => none

mutual

/-- A value with blanks before it, and what follows it. -/
def value? (fuel : Nat) (t : Text) : Option (Value × Text) :=
  match fuel with
  | 0 => none
  | fuel + 1 =>
    match skipBlanks t with
    | [] => none
    | u :: rest =>
      if u = unit '\x7b' then
        match skipBlanks rest with
        | [] => none
        | v :: after =>
          if v = unit '\x7d' then some (.record [], after)
          else do
            let (pairs, after) ← members? fuel rest
            pure (.record (Entries.ofPairs pairs), after)
      else if u = unit '[' then
        match skipBlanks rest with
        | [] => none
        | v :: after =>
          if v = unit ']' then some (.list [], after)
          else do
            let (items, after) ← items? fuel rest
            pure (.list (items.map some), after)
      else if u = unit '"' then (string? (u :: rest)).map fun (s, after) => (.text s, after)
      else if u = unit '-' ∨ u.isDigit then number? (u :: rest)
      else word? (u :: rest)

/-- The items of a list up to its closing bracket; there is at least one. -/
def items? (fuel : Nat) (t : Text) : Option (List Value × Text) :=
  match fuel with
  | 0 => none
  | fuel + 1 => do
    let (v, after) ← value? fuel t
    match skipBlanks after with
    | [] => none
    | u :: rest =>
      if u = unit ']' then pure ([v], rest)
      else if u = unit ',' then do
        let (vs, rest) ← items? fuel rest
        pure (v :: vs, rest)
      else none

/-- The entries of a record up to its closing brace; there is at least one. -/
def members? (fuel : Nat) (t : Text) : Option (List (Text × Value) × Text) :=
  match fuel with
  | 0 => none
  | fuel + 1 => do
    let (key, after) ← string? (skipBlanks t)
    match skipBlanks after with
    | [] => none
    | u :: rest =>
      if u = unit ':' then do
        let (v, after) ← value? fuel rest
        match skipBlanks after with
        | [] => none
        | u :: rest =>
          if u = unit '\x7d' then pure ([(key, v)], rest)
          else if u = unit ',' then do
            let (pairs, rest) ← members? fuel rest
            pure ((key, v) :: pairs, rest)
          else none
      else none

end

/-- The value of a document. Every step of reading consumes a unit or opens one of the two
lists above, so twice the length is steps enough. -/
def read? (t : Text) : Option Value :=
  match value? (2 * t.length + 2) t with
  | some (v, rest) => if (skipBlanks rest).isEmpty then some v else none
  | none => none

end Json

end FieldValidation
