import FieldValidation.Proofs.Text.Blank
import FieldValidation.Proofs.Value.NumericOrder

/-!
# The integers that values denote

An integer may be given as it is, as a double that tells it from all others, or as a text: digits
with or without a sign, of any length and with any number of leading zeros, and blanks around them.
This says which integer each of these denotes, without the scans that read it off. The scans find
it, and apart from the larger doubles they find no other.

## Main definitions

* `Text.Spells`: a run of digits and the number it spells
* `Value.Denotes`: a value and the integer it denotes

## Main results

* `Value.denotes_iff`: what is read off a value is the integer it denotes
-/

namespace FieldValidation

namespace Text

/-- A run of digits spells a number, digit by digit. -/
inductive Spells : Text → Nat → Prop where
  | one {d : Nat} (h : d < 10) : Spells [digit d] d
  | append {t : Text} {n d : Nat} (front : Spells t n) (h : d < 10) :
      Spells (t ++ [digit d]) (10 * n + d)

/-- The texts for a sign, and whether it is a minus. -/
inductive IsSign : Text → Bool → Prop where
  | none : IsSign [] false
  | plus : IsSign [unit '+'] false
  | minus : IsSign [unit '-'] true

/-- A text of blanks. -/
def Blank (t : Text) : Prop := ∀ u ∈ t, u.isBlank = true

variable {t sign digits : Text} {n : Nat} {negative : Bool}

/-- What is spelled is what is read. -/
theorem spells_iff :
    Spells t n ↔ t ≠ [] ∧ (∀ u ∈ t, u.isDigit = true) ∧ decimalValue t = n := by
  constructor
  · intro h
    induction h with
    | one h => simp [CodeUnit.isDigit_digit h, decimalValue, digitsValue, h]
    | append front h ih =>
      obtain ⟨-, hdigits, hvalue⟩ := ih
      refine ⟨by simp, ?_, ?_⟩
      · intro u hu
        rcases List.mem_append.mp hu with hu | hu
        · exact hdigits u hu
        · rw [List.mem_singleton.mp hu]
          exact CodeUnit.isDigit_digit h
      · rw [decimalValue_concat, hvalue, CodeUnit.digitValue_digit h, Nat.mul_comm]
  · rintro ⟨hne, hdigits, rfl⟩
    induction t using List.reverseRecOn with
    | nil => exact absurd rfl hne
    | append_singleton front u ih =>
      have hu := hdigits u (by simp)
      have hlast := CodeUnit.digitValue_lt hu
      rw [decimalValue_concat, Nat.mul_comm, ← CodeUnit.digit_digitValue hu,
        CodeUnit.digitValue_digit hlast]
      by_cases hfront : front = []
      · have hone : Spells [digit u.digitValue] u.digitValue := .one hlast
        subst hfront
        simpa [decimalValue, digitsValue] using hone
      · exact .append (ih hfront fun v hv => hdigits v (List.mem_append_left _ hv)) hlast

theorem takeSign_of_isSign (hsign : IsSign sign negative)
    (hdigits : isUnsignedNumeral digits = true) :
    takeSign (sign ++ digits) = (negative, digits) := by
  cases hsign with
  | none => exact takeSign_of_isUnsignedNumeral hdigits
  | plus | minus => rfl

/-- A sign is taken off, whichever it is. -/
theorem exists_sign (t : Text) :
    ∃ sign, IsSign sign (takeSign t).1 ∧ t = sign ++ (takeSign t).2 := by
  cases t with
  | nil => exact ⟨[], .none, rfl⟩
  | cons u rest =>
    rw [takeSign]
    by_cases hminus : u = unit '-'
    · rw [if_pos hminus, hminus]
      exact ⟨[unit '-'], .minus, rfl⟩
    · rw [if_neg hminus]
      by_cases hplus : u = unit '+'
      · rw [if_pos hplus, hplus]
        exact ⟨[unit '+'], .plus, rfl⟩
      · rw [if_neg hplus]
        exact ⟨[], .none, rfl⟩

end Text

open Text (Spells IsSign Blank)

/-- The integer that a value denotes: itself, the one that a double stands at among those that
doubles tell apart, or the one that is spelled between blanks. -/
inductive Value.Denotes : Value → Int → Prop where
  | bigint (i : Int) : Denotes (.bigint i) i
  | safe {x : FiniteNumber} {i : Int} (hinteger : x.IsInteger i)
      (hsafe : i.natAbs ≤ Number.maxSafeInteger) : Denotes (.number (.finite x)) i
  | text {before sign digits after : Text} {negative : Bool} {n : Nat} (hbefore : Blank before)
      (hsign : IsSign sign negative) (hdigits : Spells digits n) (hafter : Blank after) :
      Denotes (.text (before ++ (sign ++ digits ++ after))) (signed negative n)

namespace Text

variable {before after : Text}

theorem trim_integer (hbefore : Blank before) (hsign : IsSign sign negative)
    (hdigits : ∀ u ∈ digits, u.isDigit = true) (hafter : Blank after) :
    trim (before ++ (sign ++ digits ++ after)) = sign ++ digits := by
  apply trim_pad hbefore _ hafter
  intro u hu
  rcases List.mem_append.mp hu with hu | hu
  · cases hsign with
    | none => cases hu
    | plus | minus =>
      rw [List.mem_singleton.mp hu]
      decide
  · exact CodeUnit.isBlank_of_isDigit (hdigits u hu)

/-- An integer between blanks is read, and is recognised as a numeral. -/
theorem bigInteger?_of_spells (hbefore : Blank before) (hsign : IsSign sign negative)
    (hdigits : Spells digits n) (hafter : Blank after) :
    bigInteger? (before ++ (sign ++ digits ++ after)) = some (signed negative n) ∧
      isNumeral (before ++ (sign ++ digits ++ after)) = true := by
  obtain ⟨hne, hall, hvalue⟩ := spells_iff.mp hdigits
  have hunsigned := isUnsignedNumeral_of_digits hne hall
  have htake := takeSign_of_isSign hsign hunsigned
  have htrim := trim_integer hbefore hsign hall hafter
  constructor
  · rw [bigInteger?_eq_some_iff, htrim, htake, hvalue]
    exact ⟨hne, hall, rfl⟩
  · rw [isNumeral, htrim, ← snd_takeSign, htake]
    exact hunsigned

/-- What is read as an integer spells it between blanks. -/
theorem denotes_of_bigInteger? {i : Int} (h : bigInteger? t = some i) :
    Value.Denotes (.text t) i := by
  obtain ⟨before, after, hbefore, hafter, ht⟩ := exists_blanks t
  obtain ⟨sign, hsign, htrim⟩ := exists_sign (trim t)
  obtain ⟨hne, hall, rfl⟩ := bigInteger?_eq_some_iff.mp h
  have htext := Value.Denotes.text hbefore hsign (spells_iff.mpr ⟨hne, hall, rfl⟩) hafter
  rwa [← htrim, ← ht] at htext

end Text

namespace Value

variable {v : Value} {i : Int}

theorem exactInteger?_of_denotes (h : v.Denotes i) : v.exactInteger? = some i := by
  cases h with
  | bigint => rfl
  | safe hinteger _ => exact FiniteNumber.toInt?_of_isInteger hinteger
  | text hbefore hsign hdigits hafter =>
    exact (Text.bigInteger?_of_spells hbefore hsign hdigits hafter).1

theorem isNumeric_of_denotes (h : v.Denotes i) : v.isNumeric = true := by
  cases h with
  | bigint | safe => rfl
  | text hbefore hsign hdigits hafter =>
    exact (Text.bigInteger?_of_spells hbefore hsign hdigits hafter).2

/-- What is read off a value is the integer that it denotes, but for the doubles that do not tell
their integer from all others. -/
theorem denotes_iff :
    v.Denotes i ↔ v.exactInteger? = some i ∧
      ∀ x, v = .number x → i.natAbs ≤ Number.maxSafeInteger := by
  constructor
  · intro h
    refine ⟨exactInteger?_of_denotes h, ?_⟩
    rintro x rfl
    cases h with
    | safe _ hsafe => exact hsafe
  · rintro ⟨hinteger, hsafe⟩
    cases v with
    | bigint j =>
      rw [← Option.some.inj hinteger]
      exact .bigint j
    | number x =>
      cases x with
      | nan | infinite => cases hinteger
      | finite x => exact .safe (FiniteNumber.isInteger_of_toInt? hinteger) (hsafe _ rfl)
    | text t => exact Text.denotes_of_bigInteger? hinteger
    | _ => cases hinteger

end Value

end FieldValidation
