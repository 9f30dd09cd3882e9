import FieldValidation.Text.Basic

/-!
# Percent encoding

Any character of a text may be written as the bytes of its UTF-8 form, each as a percent sign and
two hexadecimal digits. Everything else stands for itself. Bytes that are no character become
U+FFFD: one for every longest run that could have begun a character, and one for every other byte.

## Main definitions

* `Text.utf8`, `Text.ofUtf8`: the bytes of a text, and the text of bytes
* `Text.percentDecode?`: the text that is written, if every escape is sound
* `Text.percentDecodeRuns`: the same run by run, a run that is not sound being kept as it stands
* `Text.percentBytes`: the bytes that are written, sound or not
-/

namespace FieldValidation

namespace Text

/-! ## UTF-8 -/

/-- The bytes of a character. -/
def utf8Character (n : Nat) : List Nat :=
  let continuation (bits : Nat) : Nat := 0x80 + bits % 64
  if n < 0x80 then [n]
  else if n < 0x800 then [0xC0 + n / 64, continuation n]
  else if n < 0x10000 then [0xE0 + n / 4096, continuation (n / 64), continuation n]
  else [0xF0 + n / 262144, continuation (n / 4096), continuation (n / 64), continuation n]

/-- The bytes of a text; an unpaired surrogate is written as U+FFFD. -/
def utf8 (t : Text) : List Nat := (codePoints (wellFormed t)).flatMap utf8Character

/-- The character in place of bytes that are none. -/
def replacementCharacter : Nat := 0xFFFD

/-- What the first byte of a character tells: how many bytes follow, between what bounds the first
of them lies, and the bits it holds itself. -/
def utf8Lead? (byte : Nat) : Option (Nat × Nat × Nat × Nat) :=
  if 0xC2 ≤ byte ∧ byte ≤ 0xDF then some (1, 0x80, 0xBF, byte - 0xC0)
  else if byte = 0xE0 then some (2, 0xA0, 0xBF, 0)
  else if byte = 0xED then some (2, 0x80, 0x9F, 0xD)
  else if 0xE1 ≤ byte ∧ byte ≤ 0xEF then some (2, 0x80, 0xBF, byte - 0xE0)
  else if byte = 0xF0 then some (3, 0x90, 0xBF, 0)
  else if byte = 0xF4 then some (3, 0x80, 0x8F, 4)
  else if 0xF1 ≤ byte ∧ byte ≤ 0xF3 then some (3, 0x80, 0xBF, byte - 0xF0)
  else none

/-- The character whose bits begin with `bits` and go on in `count` bytes, the first of which lies
between the bounds, and the bytes after it. -/
def utf8Rest (low high bits : Nat) : (count : Nat) → List Nat → Nat × List Nat
  | 0, bytes => (bits, bytes)
  | _ + 1, [] => (replacementCharacter, [])
  | count + 1, byte :: bytes =>
    if low ≤ byte ∧ byte ≤ high then utf8Rest 0x80 0xBF (bits * 64 + (byte - 0x80)) count bytes
    else (replacementCharacter, byte :: bytes)

/-- The characters of the bytes left, at most `fuel`. -/
def charactersOfUtf8 : (fuel : Nat) → List Nat → List Nat
  | 0, _ => []
  | _, [] => []
  | fuel + 1, byte :: bytes =>
    if byte < 0x80 then byte :: charactersOfUtf8 fuel bytes
    else
      match utf8Lead? byte with
      | none => replacementCharacter :: charactersOfUtf8 fuel bytes
      | some (count, low, high, bits) =>
        let (c, rest) := utf8Rest low high bits count bytes
        c :: charactersOfUtf8 fuel rest

/-- The text of bytes. -/
def ofUtf8 (bytes : List Nat) : Text := ofCodePoints (charactersOfUtf8 bytes.length bytes)

/-! ## Escapes -/

/-- The byte that an escape at the front of a text stands for, and what follows the escape. -/
def percentByte? : Text → Option (Nat × Text)
  | p :: a :: b :: rest => do
    guard (p = unit '%')
    pure ((← a.hexValue?) * 16 + (← b.hexValue?), rest)
  | _ => none

/-- The number of continuation bytes after the first byte of a character, and the bits of the
character that the first byte holds. -/
def leadByte? (byte : Nat) : Option (Nat × Nat) :=
  if byte < 0x80 then some (0, byte)
  else if 0xC0 ≤ byte ∧ byte < 0xE0 then some (1, byte - 0xC0)
  else if 0xE0 ≤ byte ∧ byte < 0xF0 then some (2, byte - 0xE0)
  else if 0xF0 ≤ byte ∧ byte < 0xF8 then some (3, byte - 0xF0)
  else none

/-- The character whose bits begin with `bits` and go on in `count` escaped continuation bytes. -/
def continuationBytes? (bits : Nat) : (count : Nat) → Text → Option (Nat × Text)
  | 0, t => some (bits, t)
  | count + 1, t => do
    let (byte, rest) ← percentByte? t
    guard (0x80 ≤ byte ∧ byte < 0xC0)
    continuationBytes? (bits * 64 + (byte - 0x80)) count rest

/-- The least character with a number of continuation bytes. -/
def leastWithContinuation : Nat → Nat
  | 0 => 0
  | 1 => 0x80
  | 2 => 0x800
  | _ => 0x10000

/-- The character that an escape at the front of a text begins. It is written in its shortest
form and is no surrogate. -/
def percentCharacter? (t : Text) : Option (Nat × Text) := do
  let (byte, afterLead) ← percentByte? t
  let (count, bits) ← leadByte? byte
  let (c, rest) ← continuationBytes? bits count afterLead
  guard (leastWithContinuation count ≤ c ∧ c < 0x110000 ∧ ¬ (0xD800 ≤ c ∧ c < 0xE000))
  pure (c, rest)

/-- The text written by the units left, in at most `fuel` steps. -/
def percentDecodeFrom? (keeps : Text) : (fuel : Nat) → Text → Option Text
  | _, [] => some []
  | 0, _ => none
  | fuel + 1, u :: rest =>
    if u = unit '%' then do
      let (c, after) ← percentCharacter? (u :: rest)
      let character := if keeps.any (·.toNat == c) then u :: rest.take 2 else ofCodePoint c
      return character ++ (← percentDecodeFrom? keeps fuel after)
    else do return u :: (← percentDecodeFrom? keeps fuel rest)

/-- The text that is written in percent encoding; `none` if an escape is not sound. The escapes of
the characters that are to be kept stay as they are; these are ASCII characters. -/
def percentDecode? (keeps t : Text) : Option Text := percentDecodeFrom? keeps t.length t

/-- The escapes that a text begins with, and what follows them. -/
def percentRun : Text → Text × Text
  | p :: a :: b :: rest =>
    if p = unit '%' ∧ a.hexValue?.isSome ∧ b.hexValue?.isSome then
      let (run, after) := percentRun rest
      (p :: a :: b :: run, after)
    else ([], p :: a :: b :: rest)
  | t => ([], t)

/-- The decoding of every run of escapes in the units left, in at most `fuel` steps. -/
def percentDecodeRunsFrom (keeps : Text) : (fuel : Nat) → Text → Text
  | _, [] => []
  | 0, t => t
  | fuel + 1, u :: rest =>
    match percentRun (u :: rest) with
    | ([], _) => u :: percentDecodeRunsFrom keeps fuel rest
    | (run, after) =>
      (percentDecode? keeps run).getD run ++ percentDecodeRunsFrom keeps fuel after

/-- The text that is written in percent encoding. If an escape is not sound, every run of escapes
is decoded by itself, and those that are not sound are kept as they stand. -/
def percentDecodeRuns (keeps t : Text) : Text :=
  (percentDecode? keeps t).getD (percentDecodeRunsFrom keeps t.length t)

/-- The bytes written by the bytes of a text, in at most `fuel` steps. -/
def percentBytesFrom : (fuel : Nat) → Text → List Nat
  | _, [] => []
  | 0, _ => []
  | fuel + 1, u :: rest =>
    match percentByte? (u :: rest) with
    | some (byte, after) => byte :: percentBytesFrom fuel after
    | none =>
      if u.isHighSurrogate then utf8 (u :: rest.take 1) ++ percentBytesFrom fuel rest.tail
      else utf8 [u] ++ percentBytesFrom fuel rest

/-- The bytes that are written in percent encoding. A percent sign that begins no escape stands for
itself. -/
def percentBytes (t : Text) : List Nat := percentBytesFrom t.length (wellFormed t)

end Text

end FieldValidation
