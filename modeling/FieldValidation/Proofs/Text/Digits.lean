import Mathlib.Algebra.Group.Nat.Defs
import Mathlib.Data.List.Induction
import FieldValidation.Text.Basic

/-!
# Decimal digits

Numbers with leading zeros are written by their last digits, so that the width is fixed. A run of
digits is what is written of the number it spells, and how many digits a text begins with tells
where a run of digits that something else follows ends.

## Main definitions

* `Text.digit`: a digit
* `Text.lastDigits`: the last digits of a number
* `Text.leadingDigits`: how many digits a text begins with

## Main results

* `Text.decimalValue_lastDigits`, `Text.lastDigits_decimalValue`: digits spell the number written
* `Text.decimalValue_ofNat`: what is written of a number spells it
* `Text.decimalValue_append`: what two runs of digits spell together
-/

namespace FieldValidation

/-! ## One digit -/

namespace Text

/-- A digit, for the numbers below ten. -/
def digit (n : Nat) : CodeUnit := unit (Nat.digitChar n)

end Text

namespace CodeUnit

theorem isDigit_iff {u : CodeUnit} : u.isDigit = true ↔ 48 ≤ u.toNat ∧ u.toNat ≤ 57 := by
  simp only [isDigit, Bool.and_eq_true, decide_eq_true_eq, UInt16.le_iff_toNat_le]
  rfl

theorem isDigit_digit {n : Nat} (h : n < 10) : (Text.digit n).isDigit = true := by
  revert n
  decide

@[simp] theorem digitValue_digit {n : Nat} (h : n < 10) : (Text.digit n).digitValue = n := by
  revert n
  decide

theorem digitValue_lt {u : CodeUnit} (h : u.isDigit = true) : u.digitValue < 10 := by
  have hbounds := isDigit_iff.mp h
  unfold digitValue
  omega

/-- A digit is the one that its number has. -/
theorem digit_digitValue {u : CodeUnit} (h : u.isDigit = true) : Text.digit u.digitValue = u := by
  have hdigit : ∀ n < 10, Text.digit n = (48 + n).toUInt16 := by decide
  have hbounds := isDigit_iff.mp h
  rw [hdigit _ (digitValue_lt h)]
  unfold digitValue
  apply UInt16.toNat_inj.mp
  show (48 + (u.toNat - 48)) % 65536 = u.toNat
  omega

theorem digit_ne_zero_iff {n : Nat} (h : n < 10) : Text.digit n ≠ unit '0' ↔ 0 < n := by
  revert n
  decide

end CodeUnit

namespace Text

/-! ## Numbers of a fixed width -/

/-- The last `width` digits of a number: the number with leading zeros, where it has no more. -/
def lastDigits : (width n : Nat) → Text
  | 0, _ => []
  | width + 1, n => lastDigits width (n / 10) ++ [digit (n % 10)]

@[simp] theorem length_lastDigits (width n : Nat) : (lastDigits width n).length = width := by
  induction width generalizing n with
  | zero => rfl
  | succ width ih => rw [lastDigits, List.length_append, ih, List.length_singleton]

theorem isDigit_lastDigits {width n : Nat} {u : CodeUnit} (h : u ∈ lastDigits width n) :
    u.isDigit = true := by
  induction width generalizing n with
  | zero => cases h
  | succ width ih =>
    rcases List.mem_append.mp h with hfirst | hlast
    · exact ih hfirst
    · obtain rfl := List.mem_singleton.mp hlast
      exact CodeUnit.isDigit_digit (Nat.mod_lt _ (by omega))

theorem decimalValue_concat (t : Text) (u : CodeUnit) :
    decimalValue (t ++ [u]) = decimalValue t * 10 + u.digitValue := by
  simp [decimalValue, digitsValue]

theorem decimalValue_lastDigits (width n : Nat) :
    decimalValue (lastDigits width n) = n % 10 ^ width := by
  induction width generalizing n with
  | zero => simp [lastDigits, decimalValue, digitsValue, Nat.mod_one]
  | succ width ih =>
    rw [lastDigits, decimalValue_concat, ih, CodeUnit.digitValue_digit (Nat.mod_lt _ (by omega)),
      Nat.pow_succ', Nat.mod_mul]
    omega

/-- A run of digits is what is written of the number it spells. -/
theorem lastDigits_decimalValue {width : Nat} {t : Text} (hlength : t.length = width)
    (hdigits : ∀ u ∈ t, u.isDigit = true) : lastDigits width (decimalValue t) = t := by
  induction width generalizing t with
  | zero => rw [List.length_eq_zero_iff.mp hlength]; rfl
  | succ width ih =>
    rcases List.eq_nil_or_concat t with rfl | ⟨front, u, rfl⟩
    · cases hlength
    · rw [List.concat_eq_append] at hlength hdigits ⊢
      have hu := hdigits u (by simp)
      have hvalue := CodeUnit.digitValue_lt hu
      have hfront : lastDigits width (decimalValue front) = front :=
        ih (by simpa using hlength) fun v hv => hdigits v (List.mem_append_left _ hv)
      have hdiv : (decimalValue front * 10 + u.digitValue) / 10 = decimalValue front := by omega
      have hmod : (decimalValue front * 10 + u.digitValue) % 10 = u.digitValue := by omega
      rw [decimalValue_concat, lastDigits, hdiv, hmod, hfront, CodeUnit.digit_digitValue hu]

theorem decimalValue_lt {t : Text} (hdigits : ∀ u ∈ t, u.isDigit = true) :
    decimalValue t < 10 ^ t.length := by
  rw [← lastDigits_decimalValue rfl hdigits, decimalValue_lastDigits, length_lastDigits]
  exact Nat.mod_lt _ (Nat.pow_pos (by omega))

/-- The digits of a number after the first are written before its last one. -/
theorem ofNat_eq (n : Nat) :
    ofNat n = if n < 10 then [digit n] else ofNat (n / 10) ++ [digit (n % 10)] := by
  unfold ofNat
  rw [Nat.toDigits_eq_if (by decide)]
  split
  · rfl
  · rw [List.map_append]
    rfl

/-- A number is written by as many of its last digits as there are. -/
theorem ofNat_eq_lastDigits (n : Nat) : ofNat n = lastDigits (ofNat n).length n := by
  induction n using Nat.strongRecOn with
  | ind n ih =>
    rw [ofNat_eq]
    split
    · next h => rw [List.length_singleton, lastDigits, lastDigits, Nat.mod_eq_of_lt h]; rfl
    · next h =>
      rw [List.length_append, List.length_singleton, lastDigits, ← ih (n / 10) (by omega)]

theorem ofNat_of_lt_ten {n : Nat} (h : n < 10) : ofNat n = [digit n] := by
  rw [ofNat_eq, if_pos h]

theorem ofNat_of_ten_le {n : Nat} (hten : 10 ≤ n) (h : n < 100) :
    ofNat n = [digit (n / 10), digit (n % 10)] := by
  rw [ofNat_eq, if_neg (by omega), ofNat_of_lt_ten (by omega)]
  rfl

theorem ofNat_ne_nil (n : Nat) : ofNat n ≠ [] := by
  rw [ofNat_eq]
  split <;> simp

theorem isDigit_ofNat {n : Nat} {u : CodeUnit} (h : u ∈ ofNat n) : u.isDigit = true := by
  rw [ofNat_eq_lastDigits] at h
  exact isDigit_lastDigits h

theorem decimalValue_ofNat (n : Nat) : decimalValue (ofNat n) = n := by
  induction n using Nat.strongRecOn with
  | ind n ih =>
    rw [ofNat_eq]
    split
    · next h => simp [decimalValue, digitsValue, h]
    · next h =>
      rw [decimalValue_concat, ih (n / 10) (by omega),
        CodeUnit.digitValue_digit (Nat.mod_lt _ (by decide))]
      omega

/-! ## Runs of digits one after the other -/

theorem decimalValue_append (s t : Text) :
    decimalValue (s ++ t) = decimalValue s * 10 ^ t.length + decimalValue t := by
  induction t using List.reverseRecOn with
  | nil => simp [decimalValue, digitsValue]
  | append_singleton t u ih =>
    rw [← List.append_assoc, decimalValue_concat, decimalValue_concat, ih, List.length_append,
      List.length_singleton, Nat.pow_succ, ← Nat.mul_assoc, Nat.add_mul, Nat.add_assoc]

@[simp] theorem decimalValue_zeros (k : Nat) : decimalValue (List.replicate k (unit '0')) = 0 := by
  induction k with
  | zero => rfl
  | succ k ih =>
    rw [List.replicate_succ', decimalValue_concat, ih]
    decide

theorem isDigit_of_mem_zeros {k : Nat} {u : CodeUnit} (h : u ∈ List.replicate k (unit '0')) :
    u.isDigit = true := by
  rw [List.eq_of_mem_replicate h]
  decide

/-! ## The digits at the front of a text -/

/-- How many digits a text begins with. -/
def leadingDigits (t : Text) : Nat := (t.takeWhile CodeUnit.isDigit).length

theorem leadingDigits_append {digits : Text} (h : ∀ u ∈ digits, u.isDigit = true) (t : Text) :
    leadingDigits (digits ++ t) = digits.length + leadingDigits t := by
  rw [leadingDigits, List.takeWhile_append_of_pos h, List.length_append]
  rfl

theorem leadingDigits_cons_of_neg {u : CodeUnit} (h : u.isDigit = false) (t : Text) :
    leadingDigits (u :: t) = 0 := by
  rw [leadingDigits, List.takeWhile_cons_of_neg (by simp [h]), List.length_nil]

theorem leadingDigits_cons_of_pos {u : CodeUnit} (h : u.isDigit = true) (t : Text) :
    leadingDigits (u :: t) = leadingDigits t + 1 := by
  rw [leadingDigits, List.takeWhile_cons_of_pos h, List.length_cons]
  rfl

theorem leadingDigits_eq_zero_iff {t : Text} :
    leadingDigits t = 0 ↔ ∀ u ∈ t.head?, u.isDigit = false := by
  cases t with
  | nil => simp [leadingDigits]
  | cons u rest =>
    cases hu : u.isDigit with
    | true => simp [leadingDigits_cons_of_pos hu, hu]
    | false => simp [leadingDigits_cons_of_neg hu, hu]

end Text

end FieldValidation
