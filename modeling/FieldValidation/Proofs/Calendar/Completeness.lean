import FieldValidation.Proofs.Calendar.Cutting
import FieldValidation.Proofs.Calendar.Reading

/-!
# Which dates a format accepts

A moment rendered in a separated format is cut as it was rendered, so it is accepted, unless the
format gives the hour both ways and they are not the same. Where digits of open number stand in one
run the search may cut the text in another way, of which only the first is looked at: there are
moments whose rendering is not accepted.

## Main results

* `Moment.inRange_shown`: what a directive shows of a moment is in its range
* `accepts_render_iff`: the renderings that are accepted
* `not_accepts_render`: not all of them are
-/

namespace FieldValidation

namespace Calendar

namespace Moment

variable {m : Moment} {format : Text}

/-- What a directive shows of a moment is in its range; two digits show the years from 1970 on. -/
theorem inRange_shown {d : Directive} (hshort : d = .shortYear → 1970 ≤ m.year ∧ m.year ≤ 2069) :
    d.InRange (m.shown d) := by
  cases d with
  | year => exact m.year_le
  | shortYear => exact hshort rfl
  | month | bareMonth | shortMonthName | monthName => exact ⟨m.month_pos, m.month_le⟩
  | day | bareDay => exact ⟨m.day_pos, Nat.le_trans m.day_le (daysInMonth_bounds _ _).2⟩
  | hour | bareHour => exact m.hour_le
  | halfDayHour | bareHalfDayHour => exact halfDay_bounds m.hour
  | minute => exact m.minute_le
  | second => exact m.second_le
  | upperMeridiem | lowerMeridiem => exact m.meridiem_le

/-- The number that a format shows of a part: the hour is one of half a day where one is shown. -/
def numberIn (m : Moment) (format : Text) (part : Part) : Nat :=
  if part = .hour ∧ ∃ d ∈ directives format, d.IsHalfDay then halfDay m.hour else m.number part

/-- A format that gives the hour one way, or at an hour that is the same both ways, shows one number
of each part. -/
theorem shown_eq_numberIn
    (hhour : (∃ d ∈ directives format, d.IsWholeDay) → (∃ d ∈ directives format, d.IsHalfDay) →
      1 ≤ m.hour ∧ m.hour ≤ 12) {d : Directive} (hd : d ∈ directives format) :
    m.shown d = m.numberIn format d.part := by
  unfold numberIn
  cases d with
  | hour | bareHour =>
    split
    · next h =>
      have hsame := hhour ⟨_, hd, by simp [Directive.IsWholeDay]⟩ h.2
      exact ((halfDay_eq_iff m.hour_le).mpr hsame).symm
    · rfl
  | halfDayHour | bareHalfDayHour =>
    rw [if_pos ⟨rfl, _, hd, by simp [Directive.IsHalfDay]⟩]
    rfl
  | _ =>
    rw [if_neg fun h => Part.noConfusion h.1]
    rfl

/-- The day of a moment is real in a format that gives the year with the day of a month. -/
theorem isRealDay_of_readOff {thisYear : Nat} {texts : List (Directive × Text)}
    {readings : Readings} (hread : ReadOff [] texts readings)
    (hfst : texts.map Prod.fst = directives format)
    (hvalue : ∀ entry ∈ texts, entry.1.read? entry.2 = some (m.numberIn format entry.1.part))
    (hyear : Names format .day → Names format .month → Names format .year) :
    isRealDay thisYear readings = true := by
  have hnamed := hread.isSome_lookup_iff hfst
  unfold isRealDay
  split
  · next day month hday hmonth =>
    obtain ⟨year, hlookup⟩ := Option.isSome_iff_exists.mp <| (hnamed .year).mpr <|
      hyear ((hnamed .day).mp (by rw [hday]; rfl)) ((hnamed .month).mp (by rw [hmonth]; rfl))
    rw [hlookup, hread.eq_of_lookup hvalue hday, hread.eq_of_lookup hvalue hmonth,
      hread.eq_of_lookup hvalue hlookup]
    exact decide_eq_true m.day_le
  · rfl

/-- What a directive shows of a moment is a text of its style. -/
theorem has_code (m : Moment) (d : Directive) : d.style.Has (d.code (m.shown d)) := by
  by_cases hshort : d = .shortYear
  · subst hshort
    exact Nat.mod_lt _ (by decide)
  · exact Directive.has_code (inRange_shown fun h => absurd h hshort)

/-- What a format shows of a moment, directive by directive. -/
def textsIn (m : Moment) (format : Text) : List (Directive × Text) :=
  (directives format).map fun d => (d, d.print (m.shown d))

theorem cut_render (m : Moment) (format : Text) :
    Cut (piecesOf format) (m.render format) (m.textsIn format) :=
  Cut.of_render fun d _ => ⟨_, m.has_code d, rfl⟩

/-- A moment in a separated format is cut as it was rendered. -/
theorem cut?_render (m : Moment) (hseparated : Separated (piecesOf format)) :
    cut? (piecesOf format) (m.render format) = some (m.textsIn format) := by
  have hcut := m.cut_render format
  obtain ⟨texts, htexts⟩ := hcut.exists_cut?
  rw [htexts, (cut_of_cut? htexts).unique hcut hseparated]

/-- A moment whose rendering is cut as it was rendered is accepted if and only if the hour is the
same both ways, where the format gives it both ways. -/
theorem accepts_iff_of_cut? (thisYear : Nat) (m : Moment) (hsupported : Supported format)
    (hyear : Names format .day → Names format .month → Names format .year)
    (hshort : .shortYear ∈ directives format → 1970 ≤ m.year ∧ m.year ≤ 2069)
    (hcut : cut? (piecesOf format) (m.render format) = some (m.textsIn format)) :
    accepts thisYear format (m.render format) = true ↔
      ((∃ d ∈ directives format, d.IsWholeDay) → (∃ d ∈ directives format, d.IsHalfDay) →
        1 ≤ m.hour ∧ m.hour ≤ 12) := by
  have hread : ∀ d ∈ directives format, d.read? (d.print (m.shown d)) = some (m.shown d) :=
    fun d hd => Directive.read?_print (inRange_shown fun he => hshort (he ▸ hd))
  constructor
  · rintro haccepts ⟨d, hd, hwhole⟩ ⟨d', hd', hhalf⟩
    obtain ⟨pieces, texts, readings, hparse, hcut', hreadings, -⟩ := accepts_iff.mp haccepts
    obtain ⟨-, rfl⟩ := Piece.parse?_eq_some_iff.mp hparse
    obtain rfl := Option.some.inj (hcut.symm.trans hcut')
    have hgives : ∀ d ∈ directives format, readings.lookup d.part = some (m.shown d) := by
      intro d hd
      obtain ⟨n, hn, hlookup⟩ :=
        (readOff_of_readings? hreadings).gives _ (List.mem_map_of_mem hd)
      rwa [Option.some.inj ((hread d hd).symm.trans hn)]
    have hsame : m.hour = halfDay m.hour := by
      have hhour := hgives d hd
      have hhour' := hgives d' hd'
      rcases hwhole with rfl | rfl <;> rcases hhalf with rfl | rfl <;>
        exact Option.some.inj (hhour.symm.trans hhour')
    exact (halfDay_eq_iff m.hour_le).mp hsame.symm
  · intro hhour
    have hvalue : ∀ entry ∈ m.textsIn format,
        entry.1.read? entry.2 = some (m.numberIn format entry.1.part) := by
      intro entry hmem
      obtain ⟨d, hd, rfl⟩ := List.mem_map.mp hmem
      rw [hread d hd, shown_eq_numberIn hhour hd]
    obtain ⟨readings, hreadings⟩ :
        ∃ readings, readings? [] (m.textsIn format) = some readings :=
      exists_readings? hvalue fun _ _ hnil => nomatch hnil
    refine accepts_iff.mpr ⟨_, _, readings, Piece.parse?_eq_some_iff.mpr ⟨hsupported, rfl⟩, hcut,
      hreadings, ?_⟩
    have hfst : (m.textsIn format).map Prod.fst = directives format := by
      rw [textsIn, List.map_map]
      exact List.map_id _
    exact isRealDay_of_readOff (readOff_of_readings? hreadings) hfst hvalue hyear

end Moment

/-! ## Completeness -/

/-- A moment rendered in a separated format is accepted if and only if the hour is the same both
ways, where the format gives it both ways. -/
theorem accepts_render_iff (thisYear : Nat) {format : Text} (m : Moment)
    (hsupported : Supported format)
    (hyear : Names format .day → Names format .month → Names format .year)
    (hshort : .shortYear ∈ directives format → 1970 ≤ m.year ∧ m.year ≤ 2069)
    (hseparated : Separated (piecesOf format)) :
    accepts thisYear format (m.render format) = true ↔
      ((∃ d ∈ directives format, d.IsWholeDay) → (∃ d ∈ directives format, d.IsHalfDay) →
        1 ≤ m.hour ∧ m.hour ≤ 12) :=
  m.accepts_iff_of_cut? thisYear hsupported hyear hshort (m.cut?_render hseparated)

/-- The last day of a January, early in the afternoon. -/
def january : Moment where
  year := 2023
  month := 1
  day := 31
  hour := 13
  minute := 5
  second := 9
  meridiem := 1
  year_le := by decide
  month_pos := by decide
  month_le := by decide
  day_pos := by decide
  day_le := by decide
  hour_le := by decide
  minute_le := by decide
  second_le := by decide
  meridiem_le := by decide
  meridiem_eq := rfl

/-- A day of open width before a month of two digits is told from it; an afternoon hour is not
accepted both ways. -/
theorem accepts_render_iff_january :
    Supported "jmY g:i A" ∧ Separated (piecesOf "jmY g:i A") ∧
      january.render "jmY g:i A" = ("31012023 1:05 PM" : Text) ∧
      accepts 2025 "jmY g:i A" (january.render "jmY g:i A") = true ∧
      accepts 2025 "H h" (january.render "H h") = false := by
  have hsupported : Supported "jmY g:i A" := by decide +kernel
  have hseparated : Separated (piecesOf "jmY g:i A") := by decide +kernel
  refine ⟨hsupported, hseparated, by decide +kernel, ?_, ?_⟩
  · have haccepts := accepts_render_iff 2025 january hsupported
      (fun _ _ => by decide +kernel) (fun hshort => absurd hshort (by decide +kernel)) hseparated
    apply haccepts.mpr
    intro hwhole
    exact absurd hwhole (by decide +kernel)
  · have haccepts := accepts_render_iff 2025 january
      (show Supported "H h" by decide +kernel)
      (fun hday => absurd hday (by decide +kernel))
      (fun hshort => absurd hshort (by decide +kernel)) (by decide +kernel)
    apply Bool.eq_false_iff.mpr
    intro htrue
    exact absurd (haccepts.mp htrue (by decide +kernel) (by decide +kernel)) (by decide)

/-- Not every rendering is accepted: of the digits `131` the month takes two, which leaves one for
the day, and no other cut is tried. -/
theorem not_accepts_render :
    ¬ ∀ (format : Text) (m : Moment), Supported format →
      (Names format .day → Names format .month → Names format .year) →
      (.shortYear ∈ directives format → 1970 ≤ m.year ∧ m.year ≤ 2069) →
      accepts 2025 format (m.render format) = true := by
  intro h
  have haccepts := h "Ynj" january (by decide +kernel) (fun _ _ => by decide +kernel)
    fun hshort => absurd hshort (by decide +kernel)
  have hrejects : accepts 2025 "Ynj" (january.render "Ynj") = false := by decide +kernel
  rw [hrejects] at haccepts
  cases haccepts

end Calendar

end FieldValidation
