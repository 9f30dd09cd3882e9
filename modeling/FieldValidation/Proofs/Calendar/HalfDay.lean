import FieldValidation.Proofs.Calendar.Completeness
import FieldValidation.Proofs.Calendar.OtherHalf
import FieldValidation.Proofs.Calendar.Soundness

/-!
# The hour and the half of the day

A format can name the hour of the day and the half of the day as well. They are two parts, and two
parts are never held against each other: with every text the one for the other half of the day is
accepted too. Of the two just one is a moment in the format, that in which hour and half agree.

What half of the day is read does not depend on the cut that the search happens on, since words are
told from the digits around them.

## Main definitions

* `readingsOf?`: the numbers that a text is read as in a format

## Main results

* `Cut.words_unique`: all cuts of a text have the same words
* `exists_moment_iff`: hour and half agree where the text is a moment in the format
* `exists_readingsOf?_exchanged`: the text with the other half of the day
* `accepts_both_halves`: an accepted text in a format with the hour and the half of the day
-/

namespace FieldValidation

namespace Calendar

/-- The numbers that a text is read as in a format, if it is cut and its texts agree. -/
def readingsOf? (format text : Text) : Option Readings :=
  ((Piece.parse? format).bind (cut? · text)).bind (readings? [])

variable {thisYear : Nat} {format text : Text}

theorem accepts_iff_readingsOf? :
    accepts thisYear format text = true ↔
      ∃ readings, readingsOf? format text = some readings ∧
        isRealDay thisYear readings = true := by
  unfold accepts readingsOf?
  cases (Piece.parse? format).bind (cut? · text) with
  | none => simp
  | some texts =>
    rw [Option.bind_some]
    cases hread : readings? [] texts <;> simp [hread]

/-- What is read is read off a cut that the search has found. -/
theorem readingsOf?_eq_some_iff {readings : Readings} :
    readingsOf? format text = some readings ↔
      Supported format ∧ ∃ texts, cut? (piecesOf format) text = some texts ∧
        readings? [] texts = some readings := by
  unfold readingsOf?
  rw [Option.bind_eq_some_iff]
  simp only [Option.bind_eq_some_iff, Piece.parse?_eq_some_iff]
  constructor
  · rintro ⟨texts, ⟨_, ⟨hsupported, rfl⟩, hcut⟩, hread⟩
    exact ⟨hsupported, texts, hcut, hread⟩
  · rintro ⟨hsupported, texts, hcut, hread⟩
    exact ⟨texts, ⟨_, ⟨hsupported, rfl⟩, hcut⟩, hread⟩

/-! ## The words of a cut -/

/-- The texts of a cut that are words. -/
def wordsOf (texts : List (Directive × Text)) : List (Directive × Text) :=
  texts.filter fun entry => entry.1.style.isWord

/-- A text without its digits. -/
def withoutDigits (t : Text) : Text := t.filter fun u => !u.isDigit

theorem withoutDigits_digits {t : Text} (h : ∀ u ∈ t, u.isDigit = true) : withoutDigits t = [] :=
  List.filter_eq_nil_iff.mpr fun u hu => by simp [h u hu]

theorem withoutDigits_word {d : Directive} {words : List Text} (hstyle : d.style = .word words) :
    ∀ n < words.length, withoutDigits (words.getD n []) = words.getD n [] := by
  cases d <;> cases hstyle <;> decide

/-- All cuts of a text have the same words, since the digits around them do not matter. -/
theorem Cut.words_unique {pieces : List Piece} {t t' : Text}
    {texts texts' : List (Directive × Text)} (h : Cut pieces t texts) (h' : Cut pieces t' texts')
    (hsame : withoutDigits t = withoutDigits t') : wordsOf texts = wordsOf texts' := by
  induction h generalizing t' texts' with
  | nil => cases h'; rfl
  | @literal u pieces t texts hrest ih =>
    cases h' with
    | literal _ hrest' =>
      refine ih hrest' ?_
      unfold withoutDigits at hsame ⊢
      rw [List.filter_cons, List.filter_cons] at hsame
      split at hsame
      · exact (List.cons.inj hsame).2
      · exact hsame
  | @directive d n hn pieces t texts hrest ih =>
    cases h' with
    | @directive _ n' hn' _ t' texts' hrest' =>
      have happend (p q : Text) : withoutDigits (p ++ q) = withoutDigits p ++ withoutDigits q :=
        List.filter_append p q
      rw [happend, happend] at hsame
      cases hword : d.style.isWord with
      | false =>
        rw [withoutDigits_digits fun u hu => Directive.isDigit_write hword hu,
          withoutDigits_digits fun u hu => Directive.isDigit_write hword hu] at hsame
        simpa [wordsOf, hword] using ih hrest' hsame
      | true =>
        cases hstyle : d.style with
        | padded | bare => rw [hstyle] at hword; cases hword
        | word words =>
          have hwritten : d.style.write n = d.style.write n' ∧
              withoutDigits t = withoutDigits t' := by
            have hbare : d.style.isBare = true →
                Text.leadingDigits (withoutDigits t) = Text.leadingDigits (withoutDigits t') := by
              rw [hstyle]
              nofun
            refine Directive.write_append_inj hn hn' ?_ hbare
            rw [hstyle] at hsame hn hn' ⊢
            simpa only [Style.write, withoutDigits_word hstyle n hn,
              withoutDigits_word hstyle n' hn'] using hsame
          have hothers := ih hrest' hwritten.2
          unfold wordsOf at hothers ⊢
          rw [← hstyle, List.filter_cons, List.filter_cons, hwritten.1, hothers]

/-! ## A moment in the format -/

/-- An hour of half a day lies from 1 to 12. -/
theorem Directive.IsHalfDay.hour_bounds {d : Directive} (h : d.IsHalfDay) {n : Nat}
    (hin : d.InRange n) : d.part = .hour ∧ 1 ≤ n ∧ n ≤ 12 := by
  rcases h with rfl | rfl <;> exact ⟨rfl, hin⟩

namespace Moment

theorem shown_of_isHalfDay (m : Moment) {d : Directive} (h : d.IsHalfDay) :
    m.shown d = halfDay m.hour := by
  rcases h with rfl | rfl <;> rfl

theorem shown_of_not_isHalfDay (m : Moment) {d : Directive} (h : ¬ d.IsHalfDay) :
    m.shown d = m.number d.part := by
  cases d <;> first | rfl | exact absurd (by decide) h

end Moment

section Reading

variable {texts : List (Directive × Text)} {readings : Readings}

/-- A word for the half of the day is a word. -/
theorem Directive.isWord_of_meridiem {d : Directive} (h : d.part = .meridiem) :
    d.style.isWord = true := by
  cases d <;> first | rfl | cases h

/-- The half of the day that is read of a moment is that of the moment. The search may have cut the
text in another way, but not to other words. -/
theorem lookup_meridiem_of_render {m : Moment}
    (hcut : Cut (piecesOf format) (m.render format) texts)
    (hfst : texts.map Prod.fst = directives format) (hread : ReadOff [] texts readings)
    (hhalf : Names format .meridiem) : readings.lookup .meridiem = some m.meridiem := by
  obtain ⟨d, hd, hpart⟩ := hhalf
  rw [← hfst] at hd
  obtain ⟨entry, hentry, rfl⟩ := List.mem_map.mp hd
  obtain ⟨half, hhalf, hlookup⟩ := hread.gives entry hentry
  rw [hpart] at hlookup
  have hmem : entry ∈ wordsOf (m.textsIn format) := by
    rw [← hcut.words_unique (m.cut_render format) rfl]
    exact List.mem_filter.mpr ⟨hentry, Directive.isWord_of_meridiem hpart⟩
  obtain ⟨d, -, rfl⟩ := List.mem_map.mp (List.mem_filter.mp hmem).1
  have hshown : m.shown d = m.meridiem := by
    cases d <;> first | rfl | cases hpart
  have hrange : d.InRange (m.shown d) := by
    refine m.inRange_shown ?_
    rintro rfl
    cases hpart
  rw [Directive.read?_print hrange] at hhalf
  rw [hlookup, ← Option.some.inj hhalf, hshown]

/-- No month is longer than in a leap year. -/
theorem daysInMonth_le_leap (year month : Nat) : daysInMonth year month ≤ daysInMonth 0 month := by
  have hleap : isLeapYear 0 = true := by decide
  unfold daysInMonth
  simp only [hleap, if_true]
  repeat' split
  all_goals decide

/-- The day that is read lies in its month, in a leap year if no year is read. -/
theorem numberOf_day_le_leap (hday : numberOf readings .day ≤ 31)
    (hreal : isRealDay thisYear readings = true) :
    numberOf readings .day ≤ daysInMonth (numberOf readings .year) (numberOf readings .month) := by
  cases hy : readings.lookup .year with
  | some year => exact numberOf_day_le hday (fun _ _ => by rw [hy]; rfl) hreal
  | none =>
    cases hd : readings.lookup .day with
    | none => exact numberOf_day_le hday (by rw [hd]; nofun) hreal
    | some day =>
      cases hm : readings.lookup .month with
      | none => exact numberOf_day_le hday (by rw [hm]; nofun) hreal
      | some month =>
        unfold isRealDay at hreal
        unfold numberOf
        simp only [hd, hm, hy, Option.getD_none, Option.getD_some, decide_eq_true_eq] at hreal ⊢
        exact Nat.le_trans hreal (daysInMonth_le_leap thisYear month)

/-- The hour that is read agrees with the half of the day just where the text is a moment at that
hour in the format. -/
theorem exists_moment_iff (hcut : Cut (piecesOf format) text texts)
    (hfst : texts.map Prod.fst = directives format) (hread : ReadOff [] texts readings)
    (hreal : isRealDay thisYear readings = true) (hhalf : Names format .meridiem) {hour half : Nat}
    (hlookup : readings.lookup .hour = some hour)
    (hlookup' : readings.lookup .meridiem = some half) :
    (half = 1 ↔ 12 ≤ hour) ↔ ∃ m : Moment, m.hour = hour ∧ text = m.render format := by
  have hrange := inRange_numberOf hcut hread
  have hhour : numberOf readings .hour = hour := by rw [numberOf, hlookup, Option.getD_some]
  have hmeridiem : numberOf readings .meridiem = half := by
    rw [numberOf, hlookup', Option.getD_some]
  constructor
  · intro hagree
    obtain ⟨a, ha⟩ := exists_assignment hrange (numberOf_day_le_leap (hrange .day).2 hreal)
    have hahour : a.hour = hour := (ha .hour).trans hhour
    have hameridiem : a.meridiem = half := (ha .meridiem).trans hmeridiem
    have heq : a.meridiem = a.hour / 12 := by
      have hle := a.hour_le
      have hle' := a.meridiem_le
      omega
    let m : Moment := { a with meridiem_eq := heq }
    refine ⟨m, hahour, ?_⟩
    unfold Moment.render
    rw [← Piece.flatMap_text]
    refine hcut.text_eq fun entry hmem => ?_
    obtain ⟨hin, hprint⟩ := print_numberOf hcut hread hmem
    have hshown : m.shown entry.1 = numberOf readings entry.1.part := by
      by_cases hhalfDay : entry.1.IsHalfDay
      · obtain ⟨hpart, hbounds⟩ := hhalfDay.hour_bounds hin
        rw [m.shown_of_isHalfDay hhalfDay, hpart, ← ha .hour]
        rw [hpart, ← ha .hour] at hbounds
        exact (halfDay_eq_iff a.hour_le).mpr hbounds
      · rw [m.shown_of_not_isHalfDay hhalfDay]
        exact ha entry.1.part
    rw [hshown]
    exact hprint
  · rintro ⟨m, rfl, rfl⟩
    have hsame := lookup_meridiem_of_render hcut hfst hread hhalf
    obtain rfl := Option.some.inj (hlookup'.symm.trans hsame)
    have hle := m.hour_le
    rw [m.meridiem_eq]
    omega

/-! ## The other half of the day -/

/-- The parts that a format names have the numbers that the texts give them, and the others none. -/
theorem ReadOff.lookup_eq (h : ReadOff [] texts readings)
    (hfst : texts.map Prod.fst = directives format) {value : Part → Nat}
    (hvalue : ∀ entry ∈ texts, entry.1.read? entry.2 = some (value entry.1.part)) (part : Part) :
    readings.lookup part = if Names format part then some (value part) else none := by
  have hnamed := h.isSome_lookup_iff hfst part
  cases hlookup : readings.lookup part with
  | none =>
    rw [hlookup] at hnamed
    rw [if_neg fun hnames => absurd (hnamed.mpr hnames) (by simp)]
  | some n =>
    rw [hlookup] at hnamed
    rw [if_pos (hnamed.mp rfl), h.eq_of_lookup hvalue hlookup]

/-- Numbers for the parts with the other half of the day. -/
def otherNumber (number : Part → Nat) (part : Part) : Nat :=
  if part = .meridiem then 1 - number part else number part

/-- With the halves of the day exchanged, the texts of a cut are read as the other half, and the
rest is read as before. -/
theorem read?_exchange (hcut : Cut (piecesOf format) text texts) (hread : ReadOff [] texts readings)
    {entry : Directive × Text} (hmem : entry ∈ exchange texts) :
    entry.1.read? entry.2 = some (otherNumber (numberOf readings) entry.1.part) := by
  obtain ⟨⟨d, t⟩, hentry, rfl⟩ := List.mem_map.mp hmem
  obtain ⟨hin, hprint⟩ := print_numberOf hcut hread hentry
  dsimp only at hin hprint ⊢
  have hgiven : d.read? t = some (numberOf readings d.part) := by
    rw [hprint, Directive.read?_print hin]
  unfold Directive.otherHalf otherNumber
  by_cases hpart : d.part = .meridiem
  · rw [if_pos hpart, if_pos hpart, hgiven, Option.getD_some]
    refine Directive.read?_print ?_
    cases d <;> first | exact Nat.sub_le 1 _ | cases hpart
  · rw [if_neg hpart, if_neg hpart, hgiven]

end Reading

/-- What a text is read as, another one is read as with the other half of the day. -/
theorem exists_readingsOf?_exchanged {readings : Readings}
    (h : readingsOf? format text = some readings) :
    ∃ other readings', readingsOf? format other = some readings' ∧
      readings'.lookup .meridiem = (readings.lookup .meridiem).map (1 - ·) ∧
      ∀ part, part ≠ .meridiem → readings'.lookup part = readings.lookup part := by
  obtain ⟨hsupported, texts, hsearch, hread⟩ := readingsOf?_eq_some_iff.mp h
  have hcut := cut_of_cut? hsearch
  have hoff := readOff_of_readings? hread
  have hfst : texts.map Prod.fst = directives format := by
    rw [hcut.map_fst, Piece.filterMap_directive?]
  obtain ⟨other, hexchanged⟩ := hcut.exists_exchanged
  have hsearch' : cut? (piecesOf format) other = some (exchange texts) := by
    rw [hexchanged.cut?_eq, hsearch, Option.map_some]
  have hfst' : (exchange texts).map Prod.fst = directives format := by
    rw [← hfst, exchange, List.map_map]
    rfl
  have hvalue : ∀ entry ∈ exchange texts,
      entry.1.read? entry.2 = some (otherNumber (numberOf readings) entry.1.part) :=
    fun entry hmem => read?_exchange hcut hoff hmem
  obtain ⟨readings', hread'⟩ : ∃ readings', readings? [] (exchange texts) = some readings' :=
    exists_readings? hvalue (by simp)
  have hlookup (part : Part) : readings.lookup part =
      if Names format part then some (numberOf readings part) else none := by
    refine hoff.lookup_eq hfst (fun entry hmem => ?_) part
    obtain ⟨hin, hprint⟩ := print_numberOf hcut hoff hmem
    rw [hprint, Directive.read?_print hin]
  have hlookup' (part : Part) : readings'.lookup part =
      if Names format part then some (otherNumber (numberOf readings) part) else none :=
    (readOff_of_readings? hread').lookup_eq hfst' hvalue part
  refine ⟨other, readings', readingsOf?_eq_some_iff.mpr ⟨hsupported, _, hsearch', hread'⟩, ?_, ?_⟩
  · rw [hlookup, hlookup', otherNumber, if_pos rfl]
    split <;> rfl
  · intro part hpart
    rw [hlookup, hlookup', otherNumber, if_neg hpart]

/-- An accepted text in a format with the hour and the half of the day is read as an hour and a half
of the day. They agree just where the text is a moment at that hour in the format. The text for the
other half of the day, which is otherwise read as the same, is accepted as well. -/
theorem accepts_both_halves (thisYear : Nat) {format text : Text}
    (hwhole : ∃ d ∈ directives format, d.IsWholeDay) (hhalf : Names format .meridiem)
    (h : accepts thisYear format text = true) :
    ∃ readings hour half, readingsOf? format text = some readings ∧
      readings.lookup .hour = some hour ∧ readings.lookup .meridiem = some half ∧
      hour ≤ 23 ∧ half ≤ 1 ∧
      ((half = 1 ↔ 12 ≤ hour) ↔ ∃ m : Moment, m.hour = hour ∧ text = m.render format) ∧
      ∃ other readings', accepts thisYear format other = true ∧
        readingsOf? format other = some readings' ∧
        readings'.lookup .meridiem = some (1 - half) ∧
        ∀ part, part ≠ .meridiem → readings'.lookup part = readings.lookup part := by
  obtain ⟨readings, hreadings, hreal⟩ := accepts_iff_readingsOf?.mp h
  obtain ⟨-, texts, hsearch, hread⟩ := readingsOf?_eq_some_iff.mp hreadings
  have hcut := cut_of_cut? hsearch
  have hoff := readOff_of_readings? hread
  have hfst : texts.map Prod.fst = directives format := by
    rw [hcut.map_fst, Piece.filterMap_directive?]
  have hhour : Names format .hour := by
    obtain ⟨d, hd, rfl | rfl⟩ := hwhole <;> exact ⟨_, hd, rfl⟩
  obtain ⟨hour, hlookup⟩ :=
    Option.isSome_iff_exists.mp ((hoff.isSome_lookup_iff hfst .hour).mpr hhour)
  obtain ⟨half, hlookup'⟩ :=
    Option.isSome_iff_exists.mp ((hoff.isSome_lookup_iff hfst .meridiem).mpr hhalf)
  have hrange := inRange_numberOf hcut hoff
  have hhourLe : hour ≤ 23 := by simpa [numberOf, hlookup, Part.InRange] using hrange .hour
  have hhalfLe : half ≤ 1 := by simpa [numberOf, hlookup', Part.InRange] using hrange .meridiem
  refine ⟨readings, hour, half, hreadings, hlookup, hlookup', hhourLe, hhalfLe,
    exists_moment_iff hcut hfst hoff hreal hhalf hlookup hlookup', ?_⟩
  obtain ⟨other, readings', hother, hmeridiem, hothers⟩ := exists_readingsOf?_exchanged hreadings
  refine ⟨other, readings', accepts_iff_readingsOf?.mpr ⟨readings', hother, ?_⟩, hother, ?_,
    hothers⟩
  · unfold isRealDay at hreal ⊢
    rwa [hothers .day (by decide), hothers .month (by decide), hothers .year (by decide)]
  · rw [hmeridiem, hlookup', Option.map_some]

/-- Five past one in the afternoon by the hour of the day: the text for the morning is accepted,
too. -/
theorem accepts_both_halves_afternoon :
    accepts 2025 "H:i A" "13:05 PM" = true ∧
      (∃ m : Moment, m.hour = 13 ∧ ("13:05 PM" : Text) = m.render "H:i A") ∧
      ∃ other readings, accepts 2025 "H:i A" other = true ∧
        readingsOf? "H:i A" other = some readings ∧
        readings.lookup .hour = some 13 ∧ readings.lookup .meridiem = some 0 := by
  have haccepts : accepts 2025 "H:i A" "13:05 PM" = true := by decide
  have hread : readingsOf? "H:i A" "13:05 PM" =
      some [(.meridiem, 1), (.minute, 5), (.hour, 13)] := by decide
  obtain ⟨readings, hour, half, hreadings, hlookup, hlookup', -, -, hagree, other, readings',
    hother, hreadings', hmeridiem, hothers⟩ :=
    accepts_both_halves 2025 (by decide) (by decide) haccepts
  obtain rfl := Option.some.inj (hread.symm.trans hreadings)
  obtain rfl : 13 = hour := Option.some.inj hlookup
  obtain rfl : 1 = half := Option.some.inj hlookup'
  exact ⟨haccepts, hagree.mp (by decide), other, readings', hother, hreadings',
    hothers .hour (by decide), hmeridiem⟩

/-- The hour and the half of the day that are read of an accepted text need not agree. -/
theorem not_hour_and_half_agree :
    ¬ ∀ (thisYear : Nat) (format text : Text) (readings : Readings) (hour half : Nat),
      (∃ d ∈ directives format, d.IsWholeDay) → Names format .meridiem →
      accepts thisYear format text = true → readingsOf? format text = some readings →
      readings.lookup .hour = some hour → readings.lookup .meridiem = some half →
      (half = 1 ↔ 12 ≤ hour) := by
  intro h
  have hread : readingsOf? "H A" "13 AM" = some [(.meridiem, 0), (.hour, 13)] := by decide
  have hagree := h 2025 "H A" "13 AM" _ 13 0 (by decide) (by decide)
    (by decide) hread rfl rfl
  revert hagree
  decide

end Calendar

end FieldValidation
