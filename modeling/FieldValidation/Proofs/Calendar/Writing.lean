import FieldValidation.Calendar.Matching
import FieldValidation.Proofs.Text.Digits

/-!
# What a directive writes

A directive writes a number in one of three styles: by a fixed number of digits, by its digits
without leading zero, or by a word. The texts that may stand for a directive are what its style
writes, and reading one gives the number in range that the directive writes so.

## Main definitions

* `Style`, `Style.write`: the styles, and what a number is written as
* `Directive.style`, `Directive.InRange`: the style and the range of a directive
* `Directive.print`: what a directive writes for a number of its part

## Main results

* `Directive.mem_candidates`: the candidates for a directive are what its style writes
* `Directive.read?_write`: reading undoes writing
* `Directive.eq_print_of_read?`, `Directive.read?_print`: so what is read is what is printed
-/

namespace FieldValidation

theorem Text.dropPrefix?_eq_some_iff {start t rest : Text} :
    Text.dropPrefix? start t = some rest ↔ t = start ++ rest := by
  fun_induction Text.dropPrefix? start t with
  | case1 t => simp
  | case2 p ps => simp
  | case3 ps u us ih => simp [ih]
  | case4 p ps u us h => simp [Ne.symm h]

namespace Calendar

/-- A style of writing numbers. -/
inductive Style where
  /-- A fixed number of digits, with leading zeros. -/
  | padded (width : Nat)
  /-- One or two digits without leading zero, for the numbers from `first` on. -/
  | bare (first : Nat)
  /-- One of some words, which are numbered from zero on. -/
  | word (words : List Text)

namespace Style

/-- What a number is written as. -/
def write : Style → Nat → Text
  | padded width, n => Text.lastDigits width n
  | bare _, n => Text.ofNat n
  | word words, n => words.getD n []

/-- The numbers that are written in a style. -/
def Has : Style → Nat → Prop
  | padded width, n => n < 10 ^ width
  | bare first, n => first ≤ n ∧ n < 100
  | word words, n => n < words.length

/-- Whether the number of digits is open. -/
def isBare : Style → Bool
  | bare _ => true
  | padded _ | word _ => false

/-- A text of so many digits is a number of that width. -/
theorem exists_write_padded {width : Nat} {t : Text} (hlength : t.length = width)
    (hdigits : ∀ u ∈ t, u.isDigit = true) :
    ∃ n, (Style.padded width).Has n ∧ (Style.padded width).write n = t := by
  have hlt := Text.decimalValue_lt hdigits
  rw [hlength] at hlt
  exact ⟨_, hlt, Text.lastDigits_decimalValue hlength hdigits⟩

end Style

namespace Directive

/-- The style that a directive writes in. -/
def style : Directive → Style
  | .year => .padded 4
  | .shortYear | .month | .day | .hour | .halfDayHour | .minute | .second => .padded 2
  | .bareMonth | .bareDay | .bareHalfDayHour => .bare 1
  | .bareHour => .bare 0
  | .shortMonthName => .word shortMonthNames
  | .monthName => .word monthNames
  | .upperMeridiem => .word upperHalves
  | .lowerMeridiem => .word lowerHalves

/-- The number that a directive writes for one of its part: of a year perhaps the last two digits
only, and the months that have names are counted from zero. -/
def code : Directive → Nat → Nat
  | .shortYear, n => n % 100
  | .shortMonthName, n | .monthName, n => n - 1
  | _, n => n

/-- What a directive writes for a number of its part. -/
def print (d : Directive) (n : Nat) : Text := d.style.write (d.code n)

/-- The numbers of its part that a directive is for. -/
def InRange : Directive → Nat → Prop
  | .year, n => n ≤ 9999
  | .shortYear, n => 1970 ≤ n ∧ n ≤ 2069
  | .month, n | .bareMonth, n | .shortMonthName, n | .monthName, n => 1 ≤ n ∧ n ≤ 12
  | .day, n | .bareDay, n => 1 ≤ n ∧ n ≤ 31
  | .hour, n | .bareHour, n => n ≤ 23
  | .halfDayHour, n | .bareHalfDayHour, n => 1 ≤ n ∧ n ≤ 12
  | .minute, n | .second, n => n ≤ 59
  | .upperMeridiem, n | .lowerMeridiem, n => n ≤ 1

/-! ## The candidates for a directive -/

variable {t taken rest : Text}

theorem mem_fixedDigits {width : Nat} :
    (taken, rest) ∈ fixedDigits width t ↔
      ∃ n, (Style.padded width).Has n ∧ taken = (Style.padded width).write n ∧
        t = taken ++ rest := by
  unfold fixedDigits
  constructor
  · intro h
    split at h
    case isFalse => cases h
    case isTrue hcut =>
      obtain ⟨rfl, rfl⟩ := Prod.mk.inj (List.mem_singleton.mp h)
      obtain ⟨hlength, hdigits⟩ := hcut
      obtain ⟨n, hn, hwrite⟩ := Style.exists_write_padded hlength (List.all_eq_true.mp hdigits)
      exact ⟨n, hn, hwrite.symm, (List.take_append_drop width t).symm⟩
  · rintro ⟨n, -, rfl, rfl⟩
    have hlength := Text.length_lastDigits width n
    simp only [Style.write, List.take_left' hlength, List.drop_left' hlength]
    rw [if_pos ⟨hlength, List.all_eq_true.mpr fun u hu => Text.isDigit_lastDigits hu⟩]
    exact List.mem_singleton_self _

theorem mem_bareDigits :
    (taken, rest) ∈ bareDigits t ↔
      ∃ n, (Style.bare 1).Has n ∧ taken = (Style.bare 1).write n ∧ t = taken ++ rest := by
  constructor
  · intro h
    cases t with
    | nil => cases h
    | cons u tail =>
      have hcases : (u.isDigit = true ∧ u ≠ unit '0') ∧ ((taken = [u] ∧ rest = tail) ∨
          ∃ v, v.isDigit = true ∧ tail = v :: rest ∧ taken = [u, v]) := by
        cases tail <;> simp only [bareDigits] at h <;> split at h <;> grind
      obtain ⟨⟨hu, hzero⟩, hcut⟩ := hcases
      have hvalue := CodeUnit.digitValue_lt hu
      have hpos : 0 < u.digitValue := by
        rwa [← CodeUnit.digit_ne_zero_iff hvalue, CodeUnit.digit_digitValue hu]
      rcases hcut with ⟨rfl, rfl⟩ | ⟨v, hv, rfl, rfl⟩
      · refine ⟨u.digitValue, ⟨hpos, by omega⟩, ?_, rfl⟩
        rw [Style.write, Text.ofNat_of_lt_ten hvalue, CodeUnit.digit_digitValue hu]
      · have hlast := CodeUnit.digitValue_lt hv
        have hdiv : (u.digitValue * 10 + v.digitValue) / 10 = u.digitValue := by omega
        have hmod : (u.digitValue * 10 + v.digitValue) % 10 = v.digitValue := by omega
        refine ⟨u.digitValue * 10 + v.digitValue, ⟨by omega, by omega⟩, ?_, rfl⟩
        rw [Style.write, Text.ofNat_of_ten_le (by omega) (by omega), hdiv, hmod,
          CodeUnit.digit_digitValue hu, CodeUnit.digit_digitValue hv]
  · rintro ⟨n, ⟨hpos, hlt⟩, rfl, rfl⟩
    by_cases hten : n < 10
    · have hdigit := CodeUnit.isDigit_digit hten
      have hzero := (CodeUnit.digit_ne_zero_iff hten).mpr hpos
      rw [Style.write, Text.ofNat_of_lt_ten hten]
      cases rest <;> simp [bareDigits, hdigit, hzero]
    · have hfirst := CodeUnit.isDigit_digit (show n / 10 < 10 by omega)
      have hlast := CodeUnit.isDigit_digit (show n % 10 < 10 by omega)
      have hzero := (CodeUnit.digit_ne_zero_iff (show n / 10 < 10 by omega)).mpr (by omega)
      rw [Style.write, Text.ofNat_of_ten_le (by omega) hlt]
      simp [bareDigits, hfirst, hlast, hzero]

theorem mem_oneOf {words : List Text} :
    (taken, rest) ∈ oneOf words t ↔
      ∃ n, (Style.word words).Has n ∧ taken = (Style.word words).write n ∧
        t = taken ++ rest := by
  simp only [oneOf, List.mem_filterMap, Option.map_eq_some_iff, Prod.mk.injEq]
  constructor
  · rintro ⟨word, hword, left, hleft, rfl, rfl⟩
    obtain ⟨n, hn, rfl⟩ := List.mem_iff_getElem.mp hword
    exact ⟨n, hn, by simp [Style.write, hn], Text.dropPrefix?_eq_some_iff.mp hleft⟩
  · rintro ⟨n, hn, rfl, rfl⟩
    refine ⟨_, ?_, rest, Text.dropPrefix?_eq_some_iff.mpr rfl, rfl, rfl⟩
    have hmem : words[n] ∈ words := List.getElem_mem hn
    rwa [Style.write, List.getD_eq_getElem?_getD, List.getElem?_eq_getElem hn, Option.getD_some]

/-- The candidates for a directive are the texts that its style writes, as far as the text begins
with them. -/
theorem mem_candidates {d : Directive} :
    (taken, rest) ∈ d.candidates t ↔
      ∃ n, d.style.Has n ∧ taken = d.style.write n ∧ t = taken ++ rest := by
  cases d with
  | year | shortYear | month | day | hour | halfDayHour | minute | second =>
    exact mem_fixedDigits
  | bareMonth | bareDay | bareHalfDayHour => exact mem_bareDigits
  | shortMonthName | monthName | upperMeridiem | lowerMeridiem => exact mem_oneOf
  | bareHour =>
    simp only [candidates, List.mem_append, mem_oneOf, mem_bareDigits]
    constructor
    · rintro (⟨n, hn, rfl, rfl⟩ | ⟨n, ⟨hpos, hlt⟩, rfl, rfl⟩)
      · obtain rfl : n = 0 := Nat.lt_one_iff.mp hn
        exact ⟨0, ⟨Nat.le_refl 0, by decide⟩, by decide, rfl⟩
      · exact ⟨n, ⟨Nat.zero_le n, hlt⟩, rfl, rfl⟩
    · rintro ⟨n, ⟨-, hlt⟩, rfl, rfl⟩
      rcases Nat.eq_zero_or_pos n with rfl | hpos
      · exact Or.inl ⟨0, Nat.lt_one_iff.mpr rfl, by decide, rfl⟩
      · exact Or.inr ⟨n, ⟨hpos, hlt⟩, rfl, rfl⟩

/-! ## Reading a candidate -/

theorem decimalValue_padded {width n : Nat} (h : (Style.padded width).Has n) :
    Text.decimalValue ((Style.padded width).write n) = n :=
  (Text.decimalValue_lastDigits width n).trans (Nat.mod_eq_of_lt h)

theorem decimalValue_bare (first n : Nat) :
    Text.decimalValue ((Style.bare first).write n) = n :=
  Text.decimalValue_ofNat n

theorem within_eq_some_iff {low high c n : Nat} :
    within low high c = some n ↔ (low ≤ n ∧ n ≤ high) ∧ n = c := by
  unfold within
  split <;> grind

/-- A word is read as the number it is written for. -/
theorem position?_word {d : Directive} {words : List Text} (h : d.style = .word words) :
    ∀ n < words.length, position? words (words.getD n []) = some n := by
  cases d <;> cases h <;> decide

/-- Reading undoes writing, for the numbers in range. -/
theorem read?_write {d : Directive} {c n : Nat} (h : d.style.Has c) :
    d.read? (d.style.write c) = some n ↔ d.InRange n ∧ d.code n = c := by
  have hword : ∀ words, d.style = .word words → c < words.length →
      position? words (words.getD c []) = some c :=
    fun words hstyle => position?_word hstyle c
  cases d with
  | year | month | day | hour | halfDayHour | minute | second =>
    have hvalue := decimalValue_padded h
    simp only [read?, style, hvalue, within_eq_some_iff, InRange, code, Nat.zero_le, true_and]
  | shortYear =>
    have hvalue := decimalValue_padded h
    have hlt : c < 100 := h
    simp only [read?, style, hvalue, InRange, code, Option.some.injEq, fullYear]
    split <;> omega
  | bareMonth | bareDay | bareHour | bareHalfDayHour =>
    simp only [read?, style, decimalValue_bare, within_eq_some_iff, InRange, code, Nat.zero_le,
      true_and]
  | shortMonthName | monthName =>
    have hlt : c < 12 := h
    simp only [read?, style, Style.write, hword _ rfl h, InRange, code, Option.map_some,
      Option.some.injEq]
    omega
  | upperMeridiem | lowerMeridiem =>
    have hlt : c < 2 := h
    simp only [read?, style, Style.write, hword _ rfl h, InRange, code, Option.some.injEq]
    omega

/-- A number in range is written by its code. -/
theorem has_code {d : Directive} {n : Nat} (h : d.InRange n) : d.style.Has (d.code n) := by
  cases d with
  | year =>
    have hle : n ≤ 9999 := h
    exact Nat.lt_succ_of_le hle
  | shortYear => exact Nat.mod_lt n (by decide)
  | month | day | hour | halfDayHour | minute | second =>
    simp only [InRange] at h
    show n < 100
    omega
  | bareMonth | bareDay | bareHour | bareHalfDayHour =>
    simp only [InRange] at h
    simp only [style, Style.Has, code]
    omega
  | shortMonthName | monthName =>
    simp only [InRange] at h
    show n - 1 < 12
    omega
  | upperMeridiem | lowerMeridiem => exact Nat.lt_succ_of_le h

/-- What is read of a text that the style writes is in range, and printed as that text. -/
theorem eq_print_of_read? {d : Directive} {c n : Nat} (hc : d.style.Has c)
    (hread : d.read? (d.style.write c) = some n) : d.InRange n ∧ d.style.write c = d.print n := by
  obtain ⟨hrange, rfl⟩ := (read?_write hc).mp hread
  exact ⟨hrange, rfl⟩

/-- What is printed for a number in range is read as it. -/
theorem read?_print {d : Directive} {n : Nat} (h : d.InRange n) : d.read? (d.print n) = some n :=
  (read?_write (has_code h)).mpr ⟨h, rfl⟩

end Directive

end Calendar

end FieldValidation
