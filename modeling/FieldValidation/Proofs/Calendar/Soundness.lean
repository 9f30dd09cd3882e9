import FieldValidation.Proofs.Calendar.Cutting
import FieldValidation.Proofs.Calendar.Reading

/-!
# What a date format accepts

A text that is accepted is the format rendered for one assignment of numbers to the parts: each
number is in the range of its letters, the day lies in its month, and a part that is given twice
has one number.

## Main definitions

* `Part.InRange`: the numbers that a part can have
* `escape`: the format of literal units only

## Main results

* `exists_of_accepts`: an accepted text is cut, and the parts are read off the cut
* `exists_assignment`: numbers in range whose day lies in its month are an assignment
* `accepts_sound`: an accepted text is the format rendered for an assignment
-/

namespace FieldValidation

namespace Calendar

/-! ## The range of a part -/

namespace Part

/-- The numbers that a part can have. -/
def InRange : Part → Nat → Prop
  | .year, n => n ≤ 9999
  | .month, n => 1 ≤ n ∧ n ≤ 12
  | .day, n => 1 ≤ n ∧ n ≤ 31
  | .hour, n => n ≤ 23
  | .minute, n | .second, n => n ≤ 59
  | .meridiem, n => n ≤ 1

/-- The first number that a part can have. -/
def first : Part → Nat
  | .month | .day => 1
  | _ => 0

theorem inRange_first (part : Part) : part.InRange part.first := by
  cases part <;> simp [InRange, first]

end Part

/-- The numbers that a directive is for are such as its part can have. -/
theorem Directive.InRange.part {d : Directive} {n : Nat} (h : d.InRange n) : d.part.InRange n := by
  cases d <;> simp only [InRange] at h <;> simp only [Directive.part, Part.InRange] <;> omega

/-! ## What an accepted text is cut into -/

/-- The texts of a cut are written in the style of their directive. -/
theorem Cut.exists_write {pieces : List Piece} {t : Text} {texts : List (Directive × Text)}
    (h : Cut pieces t texts) {entry : Directive × Text} (hmem : entry ∈ texts) :
    ∃ n, entry.1.style.Has n ∧ entry.2 = entry.1.style.write n := by
  induction h with
  | nil => cases hmem
  | literal u hrest ih => exact ih hmem
  | @directive d n hn pieces t texts hrest ih =>
    rcases List.mem_cons.mp hmem with rfl | hother
    · exact ⟨n, hn, rfl⟩
    · exact ih hother

variable {thisYear : Nat} {format text : Text}

/-- An accepted text is cut by a supported format, and the parts are read off the cut. -/
theorem exists_of_accepts (h : accepts thisYear format text = true) :
    Supported format ∧ ∃ texts readings,
      Cut (piecesOf format) text texts ∧
        texts.map Prod.fst = directives format ∧ ReadOff [] texts readings ∧
          isRealDay thisYear readings = true := by
  obtain ⟨pieces, texts, readings, hparse, hcut, hread, hreal⟩ := accepts_iff.mp h
  obtain ⟨hsupported, rfl⟩ := Piece.parse?_eq_some_iff.mp hparse
  have hcut := cut_of_cut? hcut
  refine ⟨hsupported, texts, readings, hcut, ?_, readOff_of_readings? hread, hreal⟩
  rw [hcut.map_fst, Piece.filterMap_directive?]

/-! ## The assignment -/

section Assignment

variable {texts : List (Directive × Text)} {readings : Readings}

/-- The number read for a part, or the first it can have. -/
def numberOf (readings : Readings) (part : Part) : Nat := (readings.lookup part).getD part.first

/-- Each text of a cut is what its directive prints for the number read for its part. -/
theorem print_numberOf {pieces : List Piece} (hcut : Cut pieces text texts)
    (hread : ReadOff [] texts readings) {entry : Directive × Text} (hmem : entry ∈ texts) :
    entry.1.InRange (numberOf readings entry.1.part) ∧
      entry.2 = entry.1.print (numberOf readings entry.1.part) := by
  obtain ⟨n, hn, hlookup⟩ := hread.gives entry hmem
  obtain ⟨c, hc, hwrite⟩ := hcut.exists_write hmem
  rw [hwrite] at hn ⊢
  unfold numberOf
  rw [hlookup]
  exact Directive.eq_print_of_read? hc hn

/-- The number read for a part is one it can have. -/
theorem inRange_numberOf {pieces : List Piece} (hcut : Cut pieces text texts)
    (hread : ReadOff [] texts readings) (part : Part) :
    part.InRange (numberOf readings part) := by
  cases hlookup : readings.lookup part with
  | none =>
    unfold numberOf
    rw [hlookup]
    exact part.inRange_first
  | some n =>
    rcases hread.only part n hlookup with hnil | ⟨entry, hmem, rfl⟩
    · cases hnil
    · exact (print_numberOf hcut hread hmem).1.part

/-- The day that is read lies in its month, where the year is read with them. -/
theorem numberOf_day_le (hday : numberOf readings .day ≤ 31)
    (hyear : (readings.lookup .day).isSome → (readings.lookup .month).isSome →
      (readings.lookup .year).isSome)
    (hreal : isRealDay thisYear readings = true) :
    numberOf readings .day ≤ daysInMonth (numberOf readings .year) (numberOf readings .month) := by
  cases hd : readings.lookup .day with
  | none =>
    have hfirst : numberOf readings .day = 1 := by unfold numberOf; rw [hd]; rfl
    rw [hfirst]
    exact Nat.le_trans (by decide) (daysInMonth_bounds _ _).1
  | some day =>
    cases hm : readings.lookup .month with
    | none =>
      have hfirst : numberOf readings .month = 1 := by unfold numberOf; rw [hm]; rfl
      rw [hfirst]
      exact hday
    | some month =>
      rw [hd, hm] at hyear
      obtain ⟨year, hy⟩ := Option.isSome_iff_exists.mp (hyear rfl rfl)
      unfold isRealDay at hreal
      unfold numberOf
      simpa [hd, hm, hy] using hreal

/-- The numbers that are read make an assignment: parts that the format does not name get the first
number they can have. -/
theorem exists_assignment (hrange : ∀ part : Part, part.InRange (numberOf readings part))
    (hday : numberOf readings .day ≤
      daysInMonth (numberOf readings .year) (numberOf readings .month)) :
    ∃ a : Assignment, ∀ part, a.number part = numberOf readings part := by
  let a : Assignment := {
    year := numberOf readings .year
    month := numberOf readings .month
    day := numberOf readings .day
    hour := numberOf readings .hour
    minute := numberOf readings .minute
    second := numberOf readings .second
    meridiem := numberOf readings .meridiem
    year_le := hrange .year
    month_pos := (hrange .month).1
    month_le := (hrange .month).2
    day_pos := (hrange .day).1
    day_le := hday
    hour_le := hrange .hour
    minute_le := hrange .minute
    second_le := hrange .second
    meridiem_le := hrange .meridiem }
  refine ⟨a, fun part => ?_⟩
  cases part <;> rfl

end Assignment

/-! ## Literal formats -/

/-- The format in which every unit is made literal. -/
def escape (t : Text) : Text := t.flatMap fun u => [unit '\\', u]

theorem marks_escape (t : Text) : marks (escape t) = t.map fun u => ⟨u, true⟩ := by
  induction t with
  | nil => rfl
  | cons u rest ih =>
    show marks (unit '\\' :: u :: escape rest) = _
    rw [marks, if_pos rfl, ih, List.map_cons]

theorem directives_escape (t : Text) : directives (escape t) = [] := by
  rw [directives, marks_escape, List.filterMap_map]
  exact List.filterMap_eq_nil_iff.mpr fun u _ => rfl

theorem render_escape (print : Directive → Text) (t : Text) : render print (escape t) = t := by
  rw [render, marks_escape, List.flatMap_map]
  exact List.flatMap_singleton' t

theorem supported_escape (t : Text) : Supported (escape t) := by
  intro m hm
  rw [marks_escape] at hm
  obtain ⟨u, -, rfl⟩ := List.mem_map.mp hm
  exact nofun

/-- A literal format accepts the text it spells. -/
theorem accepts_escape (t : Text) : accepts thisYear (escape t) t = true := by
  have hcut : Cut (piecesOf (escape t)) (render (fun d => d.print 0) (escape t))
      ((directives (escape t)).map fun d => (d, d.print 0)) :=
    Cut.of_render (by simp [directives_escape])
  rw [render_escape] at hcut
  obtain ⟨texts, htexts⟩ := hcut.exists_cut?
  have hnone : texts = [] := by
    have hfst := (cut_of_cut? htexts).map_fst
    rwa [Piece.filterMap_directive?, directives_escape, List.map_eq_nil_iff] at hfst
  subst hnone
  exact accepts_iff.mpr ⟨_, [], [], Piece.parse?_eq_some_iff.mpr ⟨supported_escape t, rfl⟩, htexts,
    rfl, rfl⟩

/-! ## Soundness -/

/-- An accepted text is the format rendered for numbers of the parts. -/
theorem exists_assignment_of_accepts
    (hyear : Names format .day → Names format .month → Names format .year)
    (h : accepts thisYear format text = true) :
    ∃ a : Assignment, (∀ d ∈ directives format, d.InRange (a.number d.part)) ∧
      text = render (fun d => d.print (a.number d.part)) format := by
  obtain ⟨-, texts, readings, hcut, hfst, hread, hreal⟩ := exists_of_accepts h
  have hnamed := hread.isSome_lookup_iff hfst
  have hrange := inRange_numberOf hcut hread
  have hday : numberOf readings .day ≤
      daysInMonth (numberOf readings .year) (numberOf readings .month) :=
    numberOf_day_le (hrange .day).2
      (fun hday hmonth => (hnamed _).mpr (hyear ((hnamed _).mp hday) ((hnamed _).mp hmonth))) hreal
  obtain ⟨a, hnumber⟩ := exists_assignment hrange hday
  refine ⟨a, ?_, ?_⟩
  · intro d hd
    rw [← hfst] at hd
    obtain ⟨entry, hmem, rfl⟩ := List.mem_map.mp hd
    rw [hnumber]
    exact (print_numberOf hcut hread hmem).1
  · rw [← Piece.flatMap_text]
    apply hcut.text_eq
    intro entry hmem
    rw [hnumber]
    exact (print_numberOf hcut hread hmem).2

/-- An accepted text is the format rendered for numbers of the parts, in the ranges of the letters
and with the day in its month, if the format gives a year with a day of a month. In particular a
format of literal units accepts just the text they spell. -/
theorem accepts_sound (thisYear : Nat) :
    (∀ format text : Text, (Names format .day → Names format .month → Names format .year) →
      accepts thisYear format text = true →
        Supported format ∧ ∃ a : Assignment,
          (∀ d ∈ directives format, d.InRange (a.number d.part)) ∧
            text = render (fun d => d.print (a.number d.part)) format) ∧
    ∀ t text : Text, accepts thisYear (escape t) text = true ↔ text = t := by
  constructor
  · intro format text hyear haccepts
    exact ⟨(exists_of_accepts haccepts).1, exists_assignment_of_accepts hyear haccepts⟩
  · intro t text
    constructor
    · intro haccepts
      have hnone : ∀ part, ¬ Names (escape t) part := by
        rintro part ⟨d, hd, -⟩
        rw [directives_escape] at hd
        cases hd
      obtain ⟨a, -, htext⟩ :=
        exists_assignment_of_accepts (fun hday => absurd hday (hnone _)) haccepts
      rwa [render_escape] at htext
    · rintro rfl
      exact accepts_escape _

/-- A leap day a quarter of an hour past noon is the format rendered; with every unit made literal,
the format spells itself. -/
theorem accepts_sound_leapDay :
    accepts 2025 "j M Y, g:i a" "29 Feb 2024, 12:15 pm" = true ∧
      Supported "j M Y, g:i a" ∧
      (∃ a : Assignment, (∀ d ∈ directives "j M Y, g:i a", d.InRange (a.number d.part)) ∧
        ("29 Feb 2024, 12:15 pm" : Text) =
          render (fun d => d.print (a.number d.part)) "j M Y, g:i a") ∧
      accepts 2025 (escape "j M Y") "j M Y" = true := by
  have haccepts : accepts 2025 "j M Y, g:i a" "29 Feb 2024, 12:15 pm" = true := by decide +kernel
  have hyear : Names "j M Y, g:i a" .year := ⟨.year, by decide +kernel, rfl⟩
  obtain ⟨hsound, hliteral⟩ := accepts_sound 2025
  obtain ⟨hsupported, hrendered⟩ := hsound _ _ (fun _ _ => hyear) haccepts
  exact ⟨haccepts, hsupported, hrendered, (hliteral _ _).mpr rfl⟩

end Calendar

end FieldValidation
