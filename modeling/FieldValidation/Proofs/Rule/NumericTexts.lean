import Mathlib
import FieldValidation.Proofs.Number.Readable
import FieldValidation.Proofs.Regex.Units
import FieldValidation.Proofs.Rule.NumericTypes
import FieldValidation.Proofs.Value.Denotation

/-!
# Numeric texts

The texts that count as numeric are told by a pattern, and their numbers are read by another rule.
The pattern takes just what is read as a decimal, so the bounds on numbers compare no text that is
not read as a number. The patterns for integers of any size and for integers without leading zeros
have the same frame: blanks, an optional sign, a body and blanks. Since no body begins with a sign
or has a blank in it, the frame is what trimming and dropping the sign take off.

## Main definitions

* `numeralPattern`, `bigIntegerPattern`, `integerPattern`: the patterns
* `Regex.framed`: a body between blanks, after an optional sign

## Main results

* `Text.exists_frame_iff`: what is left of a text without its frame
* `Regex.finds_framed_iff`: what a framed pattern finds
* `Value.isNumeric_text_iff`: the numeric texts
-/

namespace FieldValidation

/-! ## Numerals in their frame -/

namespace Text

variable {t : Text}

/-- An exponent is empty, or a mark, an optional sign and digits. -/
theorem isExponent_iff :
    isExponent t = true ↔
      t = [] ∨ ∃ mark sign negative digits, t = mark :: (sign ++ digits) ∧
        (mark = unit 'e' ∨ mark = unit 'E') ∧ IsSign sign negative ∧ digits ≠ [] ∧
        ∀ u ∈ digits, u.isDigit = true := by
  cases t with
  | nil => exact iff_of_true rfl (.inl rfl)
  | cons mark rest =>
    simp only [isExponent, Bool.and_eq_true, Bool.or_eq_true, beq_iff_eq, Bool.not_eq_true',
      List.isEmpty_eq_false_iff, List.all_eq_true]
    constructor
    · rintro ⟨⟨hmark, hne⟩, hdigits⟩
      obtain ⟨sign, hsign, hrest⟩ := exists_sign rest
      rw [snd_takeSign] at hrest
      exact .inr ⟨mark, sign, _, _, by rw [← hrest], hmark, hsign, hne, hdigits⟩
    · rintro (hnil | ⟨mark', sign, negative, digits, ht, hmark, hsign, hne, hdigits⟩)
      · cases hnil
      · obtain ⟨rfl, rfl⟩ := List.cons.inj ht
        have htake := takeSign_of_isSign hsign (isUnsignedNumeral_of_digits hne hdigits)
        rw [← snd_takeSign, htake]
        exact ⟨⟨hmark, hne⟩, hdigits⟩

theorem isBlank_of_isSign {sign : Text} {negative : Bool} (h : IsSign sign negative) :
    ∀ u ∈ sign, u.isBlank = false := by
  cases h with
  | none => nofun
  | plus | minus =>
    intro u hu
    rw [List.mem_singleton.mp hu]
    decide

/-- An integer of any size is digits after an optional sign. -/
theorem isSome_bigInteger?_iff :
    (bigInteger? t).isSome = true ↔
      dropSign (trim t) ≠ [] ∧ ∀ u ∈ dropSign (trim t), u.isDigit = true := by
  rw [Option.isSome_iff_exists, ← snd_takeSign]
  simp only [bigInteger?_eq_some_iff]
  constructor
  · rintro ⟨i, hne, hdigits, -⟩
    exact ⟨hne, hdigits⟩
  · rintro ⟨hne, hdigits⟩
    exact ⟨_, hne, hdigits, rfl⟩

theorem isNumeral_of_bigInteger? (h : (bigInteger? t).isSome = true) : isNumeral t = true :=
  isUnsignedNumeral_of_digits (isSome_bigInteger?_iff.mp h).1 (isSome_bigInteger?_iff.mp h).2

/-- There are no blanks in a numeral. -/
theorem isBlank_of_isUnsignedNumeral (h : isUnsignedNumeral t = true) :
    ∀ u ∈ t, u.isBlank = false := by
  obtain ⟨mantissa, exponent, rfl, ⟨value, places, hmantissa⟩, hexponent⟩ :=
    isUnsignedNumeral_iff.mp h
  refine List.forall_mem_append.mpr ⟨fun u hu => ?_, ?_⟩
  · rcases hmantissa.units u hu with hdigit | rfl
    · exact CodeUnit.isBlank_of_isDigit hdigit
    · decide
  · rcases isExponent_iff.mp hexponent with
      rfl | ⟨mark, sign, negative, digits, rfl, hmark, hsign, -, hdigits⟩
    · nofun
    · refine List.forall_mem_cons.mpr ⟨?_, List.forall_mem_append.mpr ⟨isBlank_of_isSign hsign, ?_⟩⟩
      · rcases hmark with rfl | rfl <;> decide
      · exact fun u hu => CodeUnit.isBlank_of_isDigit (hdigits u hu)

/-- A text with blanks around it and a sign before it, where what is between them is a numeral. -/
theorem exists_frame_iff {P : Text → Prop} (hP : ∀ t, P t → isUnsignedNumeral t = true) :
    (∃ before sign negative body after, t = before ++ (sign ++ (body ++ after)) ∧
      before.IsBlank ∧ IsSign sign negative ∧ P body ∧ after.IsBlank) ↔ P (dropSign (trim t)) := by
  constructor
  · rintro ⟨before, sign, negative, body, after, rfl, hbefore, hsign, hbody, hafter⟩
    have hnumeral := hP body hbody
    have hunblank : ∀ u ∈ sign ++ body, u.isBlank = false := List.forall_mem_append.mpr
      ⟨isBlank_of_isSign hsign, isBlank_of_isUnsignedNumeral hnumeral⟩
    rw [← List.append_assoc sign, trim_pad hbefore hunblank hafter, ← snd_takeSign,
      takeSign_of_isSign hsign hnumeral]
    exact hbody
  · intro h
    obtain ⟨before, after, hbefore, hafter, ht⟩ := exists_blanks t
    obtain ⟨sign, hsign, htrim⟩ := exists_sign (trim t)
    rw [snd_takeSign] at htrim
    refine ⟨before, sign, _, dropSign (trim t), after, ?_, hbefore, hsign, h, hafter⟩
    rw [← List.append_assoc sign, ← htrim]
    exact ht

end Text

/-! ## The patterns -/

/-- The pattern of a numeral. -/
def numeralPattern : Text :=
  Text.ofString "^\\s*[+-]?(\\d+(\\.\\d*)?|\\.\\d+)([eE][+-]?\\d+)?\\s*$"

/-- The pattern of an integer of any size. -/
def bigIntegerPattern : Text := Text.ofString "^\\s*[+-]?\\d+\\s*$"

/-- The pattern of an integer without leading zeros. -/
def integerPattern : Text := Text.ofString "^\\s*[+-]?(0|[1-9]\\d*)\\s*$"

namespace Regex

/-- Any number of characters of a set, from the group of this number on. -/
def anyOf (set : CharacterSet) (group : Nat) : Node :=
  .repetition (.characters set) 0 none true group group

/-- Some characters of a set. -/
def someOf (set : CharacterSet) (group : Nat) : Node :=
  .repetition (.characters set) 1 none true group group

/-- An expression that need not be there, with its groups. -/
def optional (body : Node) (firstGroup endGroup : Nat) : Node :=
  .repetition body 0 (some 1) true firstGroup endGroup

/-- The set of two units. -/
def eitherUnit (u v : CodeUnit) : CharacterSet := .single u.toNat ++ .single v.toNat

/-- An optional sign. -/
def optionalSign (group : Nat) : Node :=
  optional (.characters (eitherUnit (unit '+') (unit '-'))) group group

/-- What stands between the anchors of a framed pattern, with the number of the groups of its
body. -/
def frame (body : List Node) (groupCount : Nat) : List Node :=
  [anyOf blanks 1, optionalSign 1] ++ body ++ [anyOf blanks (groupCount + 1)]

/-- A body between blanks, after an optional sign. -/
def framed (body : List Node) (groupCount : Nat) : Regex :=
  ⟨.none, .inTurn (.anchor .start :: (frame body groupCount ++ [.anchor .finish])), groupCount⟩

/-- The mantissa of a numeral. -/
def mantissa : Node :=
  .capture 1 (.either
    (.inTurn [someOf digits 2,
      optional (.capture 2 (.inTurn [.characters (.single (unit '.').toNat), anyOf digits 3])) 2 3])
    (.inTurn [.characters (.single (unit '.').toNat), someOf digits 3]))

/-- The exponent of a numeral. -/
def exponent : Node :=
  optional (.capture 3 (.inTurn [.characters (eitherUnit (unit 'E') (unit 'e')), optionalSign 4,
    someOf digits 4])) 3 4

/-- Digits without leading zeros. -/
def canonicalDigits : Node :=
  .capture 1 (.either (.inTurn [.characters (.single (unit '0').toNat)])
    (.inTurn [.characters [((unit '1').toNat, (unit '9').toNat)], anyOf digits 2]))

/-- The pattern of a numeral as it is read. -/
def numeral : Regex := framed [mantissa, exponent] 3

/-- The pattern of an integer of any size as it is read. -/
def bigInteger : Regex := framed [someOf digits 1] 0

/-- The pattern of an integer without leading zeros as it is read. -/
def integer : Regex := framed [canonicalDigits] 1

set_option maxRecDepth 20000 in
theorem compile?_numericPatterns :
    compile? numeralPattern [] = some numeral ∧
    compile? bigIntegerPattern [] = some bigInteger ∧
    compile? integerPattern [] = some integer := by
  refine ⟨?_, ?_, ?_⟩ <;> cbv

/-! ## What the patterns find -/

section Spans

variable {s : Subject} {before t after : Text} {group : Nat} {u v : CodeUnit}

theorem spans_anyOf_digits_iff :
    Spans s (anyOf digits group) before t after ↔ ∀ u ∈ t, u.isDigit = true := by
  rw [anyOf, spans_run_iff]
  simp only [has_digits]

theorem spans_someOf_digits_iff :
    Spans s (someOf digits group) before t after ↔ t ≠ [] ∧ ∀ u ∈ t, u.isDigit = true := by
  rw [someOf, spans_someRun_iff]
  simp only [has_digits]

theorem spans_anyOf_blanks_iff : Spans s (anyOf blanks group) before t after ↔ t.IsBlank := by
  rw [anyOf, spans_run_iff]
  simp only [has_blanks]
  rfl

theorem spans_eitherUnit_iff :
    Spans s (.characters (eitherUnit u v)) before t after ↔ t = [u] ∨ t = [v] := by
  rw [spans_characters_iff]
  simp only [eitherUnit, CharacterSet.has_append_iff, has_single_iff]
  constructor
  · rintro ⟨w, rfl, rfl | rfl⟩
    · exact .inl rfl
    · exact .inr rfl
  · rintro (rfl | rfl)
    · exact ⟨u, rfl, .inl rfl⟩
    · exact ⟨v, rfl, .inr rfl⟩

theorem spans_optionalSign_iff :
    Spans s (optionalSign group) before t after ↔ ∃ negative, Text.IsSign t negative := by
  rw [optionalSign, optional, spans_optional_iff, spans_eitherUnit_iff]
  constructor
  · rintro (rfl | rfl | rfl)
    · exact ⟨false, .none⟩
    · exact ⟨false, .plus⟩
    · exact ⟨true, .minus⟩
  · rintro ⟨negative, hsign⟩
    cases hsign with
    | none => exact .inl rfl
    | plus => exact .inr (.inl rfl)
    | minus => exact .inr (.inr rfl)

theorem spans_mantissa_iff :
    Spans s mantissa before t after ↔ ∃ value places, Text.IsMantissa t value places := by
  rw [Text.exists_isMantissa_iff]
  simp only [mantissa, optional, spans_capture_iff, spans_either_iff, spans_cons_iff,
    spans_nil_iff, spans_optional_iff, spans_single_iff, spans_anyOf_digits_iff,
    spans_someOf_digits_iff]
  constructor
  · rintro (⟨whole, _, rfl, ⟨hne, hwhole⟩, point, _, rfl, hpoint, rfl⟩ |
      ⟨_, _, rfl, rfl, fraction, _, rfl, ⟨hne, hfraction⟩, rfl⟩)
    · rcases hpoint with rfl | ⟨_, _, rfl, rfl, fraction, _, rfl, hfraction, rfl⟩
      · left
        simpa using ⟨hne, hwhole⟩
      · exact .inr ⟨whole, fraction, by simp, by simp [hne], hwhole, hfraction⟩
    · exact .inr ⟨[], fraction, by simp, hne, nofun, hfraction⟩
  · rintro (⟨hne, hdigits⟩ | ⟨whole, fraction, rfl, hne, hwhole, hfraction⟩)
    · exact .inl ⟨t, [], by simp, ⟨hne, hdigits⟩, [], [], rfl, .inl rfl, rfl⟩
    · by_cases hwhole' : whole = []
      · subst hwhole'
        exact .inr ⟨[unit '.'], fraction, rfl, rfl, fraction, [], by simp, ⟨hne, hfraction⟩, rfl⟩
      · exact .inl ⟨whole, _, rfl, ⟨hwhole', hwhole⟩, unit '.' :: fraction, [], by simp,
          .inr ⟨[unit '.'], fraction, rfl, rfl, fraction, [], by simp, hfraction, rfl⟩, rfl⟩

theorem spans_exponent_iff :
    Spans s exponent before t after ↔ Text.isExponent t = true := by
  rw [Text.isExponent_iff]
  simp only [exponent, optional, spans_optional_iff, spans_capture_iff, spans_cons_iff,
    spans_nil_iff, spans_eitherUnit_iff, spans_optionalSign_iff, spans_someOf_digits_iff]
  apply or_congr_right
  constructor
  · rintro ⟨_, _, rfl, hmark, sign, _, rfl, ⟨negative, hsign⟩, digits, _, rfl, ⟨hne, hdigits⟩, rfl⟩
    rcases hmark with rfl | rfl
    · exact ⟨unit 'E', sign, negative, digits, by simp, .inr rfl, hsign, hne, hdigits⟩
    · exact ⟨unit 'e', sign, negative, digits, by simp, .inl rfl, hsign, hne, hdigits⟩
  · rintro ⟨mark, sign, negative, digits, rfl, hmark, hsign, hne, hdigits⟩
    refine ⟨[mark], sign ++ digits, rfl, ?_, sign, digits, rfl, ⟨negative, hsign⟩, digits, [],
      by simp, ⟨hne, hdigits⟩, rfl⟩
    rcases hmark with rfl | rfl
    · exact .inr rfl
    · exact .inl rfl

theorem spans_numeral_iff :
    Spans s (.inTurn [mantissa, exponent]) before t after ↔ Text.isUnsignedNumeral t = true := by
  rw [Text.isUnsignedNumeral_iff]
  simp only [spans_cons_iff, spans_nil_iff, spans_mantissa_iff, spans_exponent_iff]
  constructor
  · rintro ⟨m, _, rfl, hm, e, _, rfl, he, rfl⟩
    exact ⟨m, e, by simp, hm, he⟩
  · rintro ⟨m, e, rfl, hm, he⟩
    exact ⟨m, e, rfl, hm, e, [], by simp, he, rfl⟩

theorem spans_bigInteger_iff :
    Spans s (.inTurn [someOf digits 1]) before t after ↔ t ≠ [] ∧ ∀ u ∈ t, u.isDigit = true := by
  simp only [spans_cons_iff, spans_nil_iff, spans_someOf_digits_iff]
  constructor
  · rintro ⟨p, _, rfl, hp, rfl⟩
    rwa [List.append_nil]
  · intro h
    exact ⟨t, [], by simp, h, rfl⟩

/-- The digits from one on. -/
theorem has_nonzeroDigits :
    CharacterSet.has [((unit '1').toNat, (unit '9').toNat)] u.toNat = true ↔
      u.isDigit = true ∧ u ≠ unit '0' := by
  rw [CharacterSet.has_cons_iff, CharacterSet.has_nil, CodeUnit.isDigit_iff, ne_eq,
    ← UInt16.toNat_inj]
  have hone : (unit '1').toNat = 49 := rfl
  have hnine : (unit '9').toNat = 57 := rfl
  have hzero : (unit '0').toNat = 48 := rfl
  simp only [hone, hnine, hzero, Bool.false_eq_true, or_false]
  omega

theorem spans_integer_iff :
    Spans s (.inTurn [canonicalDigits]) before t after ↔ Text.isCanonicalDigits t = true := by
  rw [Text.isCanonicalDigits_iff]
  simp only [canonicalDigits, spans_cons_iff, spans_nil_iff, spans_capture_iff, spans_either_iff,
    spans_characters_iff, has_single_iff, has_nonzeroDigits, spans_anyOf_digits_iff]
  constructor
  · rintro ⟨_, _, rfl, ⟨_, _, rfl, ⟨_, rfl, rfl⟩, rfl⟩ |
      ⟨_, _, rfl, ⟨u, rfl, hu, hne⟩, rest, _, rfl, hrest, rfl⟩, rfl⟩
    · exact .inl rfl
    · exact .inr ⟨u, rest, by simp, hu, hne, hrest⟩
  · rintro (rfl | ⟨u, rest, rfl, hu, hne, hrest⟩)
    · exact ⟨[unit '0'], [], rfl, .inl ⟨[unit '0'], [], rfl, ⟨unit '0', rfl, rfl⟩, rfl⟩, rfl⟩
    · exact ⟨u :: rest, [], by simp,
        .inr ⟨[u], rest, rfl, ⟨u, rfl, hu, hne⟩, rest, [], by simp, hrest, rfl⟩, rfl⟩

end Spans

/-- A framed pattern finds the texts that its body takes once the frame is taken off, if the body
takes numerals only. -/
theorem finds_framed_iff {body : List Node} {groupCount : Nat} {P : Text → Prop} {t : Text}
    (hbody : ∀ s before t after, Spans s (.inTurn body) before t after ↔ P t)
    (hP : ∀ t, P t → Text.isUnsignedNumeral t = true) :
    (framed body groupCount).Finds t ↔ P (Text.dropSign (Text.trim t)) := by
  rw [finds_iff_spans rfl rfl rfl, ← Text.exists_frame_iff hP]
  simp only [frame, spans_append_iff, spans_cons_iff, spans_nil_iff, spans_anyOf_blanks_iff,
    spans_optionalSign_iff, hbody]
  constructor
  · rintro ⟨_, _, rfl, ⟨_, body, rfl, ⟨before, _, rfl, hbefore, sign, _, rfl, ⟨negative, hsign⟩,
      rfl⟩, hP⟩, after, _, rfl, hafter, rfl⟩
    exact ⟨before, sign, negative, body, after, by simp, hbefore, hsign, hP, hafter⟩
  · rintro ⟨before, sign, negative, body, after, rfl, hbefore, hsign, hP, hafter⟩
    exact ⟨before ++ (sign ++ body), after, by simp,
      ⟨before ++ sign, body, by simp,
        ⟨before, sign, rfl, hbefore, sign, [], by simp, ⟨negative, hsign⟩, rfl⟩, hP⟩,
      after, [], by simp, hafter, rfl⟩

/-- The patterns find the texts that the scans accept. -/
theorem finds_numeral_iff {t : Text} : numeral.Finds t ↔ t.isNumeral = true :=
  finds_framed_iff (fun _ _ _ _ => spans_numeral_iff) fun _ h => h

theorem finds_bigInteger_iff {t : Text} :
    bigInteger.Finds t ↔ (Text.bigInteger? t).isSome = true := by
  rw [Text.isSome_bigInteger?_iff]
  exact finds_framed_iff (fun _ _ _ _ => spans_bigInteger_iff) fun _ h =>
    Text.isUnsignedNumeral_of_digits h.1 h.2

theorem finds_integer_iff {t : Text} : integer.Finds t ↔ t.isCanonicalInteger = true :=
  finds_framed_iff (fun _ _ _ _ => spans_integer_iff) fun _ h =>
    have hdigits := Text.isDigit_of_isCanonicalDigits h
    Text.isUnsignedNumeral_of_digits hdigits.1 hdigits.2

theorem isPlain_numericPatterns :
    numeral.node.IsPlain ∧ bigInteger.node.IsPlain ∧ integer.node.IsPlain := by
  simp [numeral, bigInteger, integer, framed, frame, mantissa, exponent, canonicalDigits, anyOf,
    someOf, optionalSign, optional, Node.inTurn, Node.IsPlain]

end Regex

/-! ## The numeric texts -/

namespace BuiltinRule

variable {thisYear : Nat} {compare : Value → Value → Option Ordering} {value parameter : Value}

/-- A bound on numbers is the same for every way of comparing that agrees with the usual one on what
is read as a number. -/
theorem bound_of_agreeing
    (hagree : ∀ a b : Value, a.toNumber ≠ .nan → b.toNumber ≠ .nan →
      compare a b = Value.compareNumeric a b)
    (accepted : Ordering → Bool) (refusal misuse : Phrase) (value parameter : Value) :
    bound { Checks.standard thisYear with compareNumeric := compare } accepted refusal misuse value
        parameter =
      bound (Checks.standard thisYear) accepted refusal misuse value parameter := by
  unfold bound
  by_cases hvalue : value.isNumeric = true
  · by_cases hparameter : parameter.isNumeric = true
    · have hcompare := hagree value parameter (Value.toNumber_ne_nan hvalue)
        (Value.toNumber_ne_nan hparameter)
      by_cases hkept : (Value.compareNumeric value parameter).any accepted = true <;>
        simp [Checks.standard, hvalue, hparameter, hcompare, hkept]
    · simp [Checks.standard, hparameter]
  · simp [Checks.standard, hvalue]

end BuiltinRule

/-- The numeric texts are those that are read as numbers and are, between blanks, neither empty nor
an infinity nor a literal in another base. So the bounds on numbers compare nothing that is not read
as a number: their verdicts are the same for all ways of comparing that agree with the usual one on
what is read as a number. Integers of any size and integers without leading zeros are numeric; and
the pattern of each of these kinds of text finds just the texts of its kind, the one of the numeric
texts by every search with enough steps. -/
theorem Value.isNumeric_text_iff (thisYear : Nat) :
    (∀ t : Text, (Value.text t).isNumeric = true ↔
      t.trim ≠ [] ∧ Number.ofText t ≠ .nan ∧ ¬ t.trim.IsInfinity ∧ ¬ t.trim.IsRadixLiteral) ∧
    (∀ compare : Value → Value → Option Ordering,
      (∀ a b : Value, a.toNumber ≠ .nan → b.toNumber ≠ .nan → compare a b = compareNumeric a b) →
      ∀ rule value parameter, rule = .min ∨ rule = .max →
        BuiltinRule.verdict { Checks.standard thisYear with compareNumeric := compare } rule value
            parameter =
          BuiltinRule.verdict (Checks.standard thisYear) rule value parameter) ∧
    (∀ t : Text, (Text.bigInteger? t).isSome = true ∨ t.isCanonicalInteger = true →
      (Value.text t).isNumeric = true) ∧
    ∃ numeral bigInteger integer : Regex,
      Regex.compile? numeralPattern [] = some numeral ∧
      Regex.compile? bigIntegerPattern [] = some bigInteger ∧
      Regex.compile? integerPattern [] = some integer ∧
      ∀ t : Text,
        (numeral.Finds t ↔ (Value.text t).isNumeric = true) ∧
        (bigInteger.Finds t ↔ (Text.bigInteger? t).isSome = true) ∧
        (integer.Finds t ↔ t.isCanonicalInteger = true) ∧
        (numeral.test t = true → (Value.text t).isNumeric = true) ∧
        ∃ enough, ∀ steps, enough ≤ steps →
          (numeral.testWithin steps t = true ↔ (Value.text t).isNumeric = true) := by
  refine ⟨fun t => Text.isNumeral_iff_reads, ?_, fun t ht => ?_, Regex.numeral, Regex.bigInteger,
    Regex.integer, Regex.compile?_numericPatterns.1, Regex.compile?_numericPatterns.2.1,
    Regex.compile?_numericPatterns.2.2, fun t => ?_⟩
  · rintro compare hagree rule value parameter (rfl | rfl)
    · exact BuiltinRule.bound_of_agreeing hagree ..
    · exact BuiltinRule.bound_of_agreeing hagree ..
  · rcases ht with hbig | hcanonical
    · exact Text.isNumeral_of_bigInteger? hbig
    · exact (Text.isNumeral_of_isCanonicalInteger hcanonical).1
  · obtain ⟨enough, htest⟩ := Regex.exists_testWithin_iff Regex.isPlain_numericPatterns.1 t
    have hfound : Regex.numeral.test t = true → t.isNumeral = true := fun htest =>
      Regex.finds_numeral_iff.mp (Regex.finds_of_test Regex.isPlain_numericPatterns.1 htest)
    exact ⟨Regex.finds_numeral_iff, Regex.finds_bigInteger_iff, Regex.finds_integer_iff, hfound,
      enough, fun steps hsteps => (htest steps hsteps).trans Regex.finds_numeral_iff⟩

end FieldValidation
