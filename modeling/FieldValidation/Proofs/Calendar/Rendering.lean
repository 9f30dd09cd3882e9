import FieldValidation.Proofs.Calendar.Writing

/-!
# Rendering a date in a format

The units of a format are marked by whether a backslash makes them literal. An unmarked letter is a
directive, which is replaced by what it writes; everything else stands for itself. Parsing a format
tells the same units apart, and fails where an unmarked letter is no directive.

## Main definitions

* `Mark`, `marks`, `piecesOf`: the units of a format and the pieces they are
* `directives`, `Supported`, `Names`: the letters of a format and the parts they name
* `render`: a format with its directives replaced
* `Assignment`, `Moment`: numbers for the parts of a date and time, and those of a time on the clock

## Main results

* `Piece.parse?_eq_some_iff`: a format is parsed to the pieces its units stand for
-/

namespace FieldValidation

namespace Calendar

/-- A unit of a format, and whether a backslash before it makes it literal. -/
structure Mark where
  unit : CodeUnit
  escaped : Bool
  deriving DecidableEq

/-- The units of a format. A backslash that something follows is not one of them. -/
def marks : Text → List Mark
  | [] => []
  | [u] => [⟨u, false⟩]
  | u :: v :: rest =>
    if u = unit '\\' then ⟨v, true⟩ :: marks rest else ⟨u, false⟩ :: marks (v :: rest)

namespace Mark

/-- The directive that an unmarked letter is. -/
def directive? (m : Mark) : Option Directive :=
  if m.escaped then none else Directive.ofLetter? m.unit

/-- What a unit of a format stands for, where `print` tells what directives write. -/
def text (print : Directive → Text) (m : Mark) : Text :=
  match m.directive? with
  | some d => print d
  | none => [m.unit]

/-- A letter is a directive, unless a backslash makes it literal. -/
def Supported (m : Mark) : Prop :=
  m.escaped = false → m.unit.isLetter = true → (Directive.ofLetter? m.unit).isSome = true

/-- The piece of a format that a unit is. -/
def piece (m : Mark) : Piece :=
  match m.directive? with
  | some d => .directive d
  | none => .literal m.unit

end Mark

/-- The directives of a format, in order. -/
def directives (format : Text) : List Directive := (marks format).filterMap Mark.directive?

/-- The pieces that the units of a format are. -/
def piecesOf (format : Text) : List Piece := (marks format).map Mark.piece

/-- Every letter of the format is a directive, unless it is literal. -/
def Supported (format : Text) : Prop := ∀ m ∈ marks format, m.Supported

/-- A letter of the format gives the part. -/
def Names (format : Text) (part : Part) : Prop := ∃ d ∈ directives format, d.part = part

/-- A format with its directives replaced by what `print` tells of them. -/
def render (print : Directive → Text) (format : Text) : Text :=
  (marks format).flatMap (Mark.text print)

instance (m : Mark) : Decidable m.Supported := inferInstanceAs (Decidable (_ → _ → _))

instance (format : Text) : Decidable (Supported format) :=
  inferInstanceAs (Decidable (∀ m ∈ marks format, m.Supported))

instance (format : Text) (part : Part) : Decidable (Names format part) :=
  inferInstanceAs (Decidable (∃ d ∈ directives format, d.part = part))

/-! ## Numbers for the parts -/

theorem daysInMonth_bounds (year month : Nat) :
    28 ≤ daysInMonth year month ∧ daysInMonth year month ≤ 31 := by
  unfold daysInMonth
  repeat' split
  all_goals decide

/-- Numbers for the parts of a date and of a time of day. The day lies in its month; the hour may
be one of the day or one of half a day. -/
structure Assignment where
  year : Nat
  month : Nat
  day : Nat
  hour : Nat
  minute : Nat
  second : Nat
  meridiem : Nat
  year_le : year ≤ 9999
  month_pos : 1 ≤ month
  month_le : month ≤ 12
  day_pos : 1 ≤ day
  day_le : day ≤ daysInMonth year month
  hour_le : hour ≤ 23
  minute_le : minute ≤ 59
  second_le : second ≤ 59
  meridiem_le : meridiem ≤ 1

/-- The number of a part. -/
def Assignment.number (a : Assignment) : Part → Nat
  | .year => a.year
  | .month => a.month
  | .day => a.day
  | .hour => a.hour
  | .minute => a.minute
  | .second => a.second
  | .meridiem => a.meridiem

/-- A moment on the clock: the hour is one of the day, and tells which half of the day it is. -/
structure Moment extends Assignment where
  meridiem_eq : meridiem = hour / 12

/-- An hour of the day as an hour of half a day: the first of twelve is the twelfth. -/
def halfDay (hour : Nat) : Nat := if hour % 12 = 0 then 12 else hour % 12

/-- The hour of half a day is that of the day from one o'clock to noon. -/
theorem halfDay_eq_iff {hour : Nat} (h : hour ≤ 23) :
    halfDay hour = hour ↔ 1 ≤ hour ∧ hour ≤ 12 := by
  unfold halfDay
  split <;> omega

theorem halfDay_bounds (hour : Nat) : 1 ≤ halfDay hour ∧ halfDay hour ≤ 12 := by
  unfold halfDay
  split <;> omega

namespace Directive

/-- The directive writes the hour of the day. -/
def IsWholeDay (d : Directive) : Prop := d = .hour ∨ d = .bareHour

/-- The directive writes the hour of half a day. -/
def IsHalfDay (d : Directive) : Prop := d = .halfDayHour ∨ d = .bareHalfDayHour

instance (d : Directive) : Decidable d.IsWholeDay := inferInstanceAs (Decidable (_ ∨ _))

instance (d : Directive) : Decidable d.IsHalfDay := inferInstanceAs (Decidable (_ ∨ _))

end Directive

/-- The number that a directive shows of a moment. -/
def Moment.shown (m : Moment) : Directive → Nat
  | .halfDayHour | .bareHalfDayHour => halfDay m.hour
  | d => m.number d.part

/-- A moment in a format. -/
def Moment.render (m : Moment) (format : Text) : Text :=
  Calendar.render (fun d => d.print (m.shown d)) format

/-! ## The pieces of a format -/

namespace Piece

/-- The directive that a piece is. -/
def directive? : Piece → Option Directive
  | literal _ => none
  | directive d => some d

/-- What a piece stands for, where `print` tells what directives write. -/
def text (print : Directive → Text) : Piece → Text
  | literal u => [u]
  | directive d => print d

theorem ofUnit?_eq_some_iff {u : CodeUnit} {piece : Piece} :
    ofUnit? u = some piece ↔ (Mark.mk u false).Supported ∧ piece = (Mark.mk u false).piece := by
  unfold ofUnit? Mark.Supported Mark.piece Mark.directive?
  dsimp only
  cases hd : Directive.ofLetter? u with
  | some d =>
    simp only [Option.some.injEq, Bool.false_eq_true, if_false]
    exact ⟨fun h => ⟨fun _ _ => rfl, h.symm⟩, fun h => h.2.symm⟩
  | none =>
    cases hletter : u.isLetter <;> simp [eq_comm]

theorem parseFrom?_cons {u : CodeUnit} (hu : u ≠ unit '\\') {rest : Text} {pieces : List Piece} :
    parseFrom? false (u :: rest) = some pieces ↔
      (Mark.mk u false).Supported ∧ ∃ others, parseFrom? false rest = some others ∧
        pieces = (Mark.mk u false).piece :: others := by
  simp only [parseFrom?, Bool.false_eq_true, if_false, if_neg hu]
  cases hunit : ofUnit? u with
  | some piece =>
    obtain ⟨hsupported, rfl⟩ := ofUnit?_eq_some_iff.mp hunit
    simp only [Option.map_eq_some_iff, hsupported, true_and]
    exact exists_congr fun others => and_congr_right fun _ => eq_comm
  | none =>
    refine ⟨nofun, fun h => ?_⟩
    have hsome := ofUnit?_eq_some_iff.mpr ⟨h.1, rfl⟩
    rw [hunit] at hsome
    cases hsome

/-- A format is parsed to the pieces that its units are, where its letters are supported. -/
theorem parse?_eq_some_iff {format : Text} {pieces : List Piece} :
    parse? format = some pieces ↔
      Supported format ∧ pieces = piecesOf format := by
  unfold parse? Supported piecesOf
  fun_induction marks format generalizing pieces with
  | case1 => simp [parseFrom?, eq_comm]
  | case2 u =>
    by_cases hu : u = unit '\\'
    · subst hu
      have hpiece : ofUnit? (unit '\\') = some (.literal (unit '\\')) := by decide
      obtain ⟨hsupported, heq⟩ := ofUnit?_eq_some_iff.mp hpiece
      simp [parseFrom?, hsupported, ← heq, eq_comm]
    · rw [parseFrom?_cons hu]
      simp [parseFrom?]
  | case3 v rest ih =>
    simp only [parseFrom?, Bool.false_eq_true, if_false, if_true, Option.map_eq_some_iff, ih,
      List.forall_mem_cons, List.map_cons]
    constructor
    · rintro ⟨others, ⟨hrest, rfl⟩, rfl⟩
      exact ⟨⟨nofun, hrest⟩, rfl⟩
    · rintro ⟨⟨-, hrest⟩, rfl⟩
      exact ⟨_, ⟨hrest, rfl⟩, rfl⟩
  | case4 u v rest hu ih =>
    rw [parseFrom?_cons hu, List.forall_mem_cons]
    simp only [ih, List.map_cons]
    constructor
    · rintro ⟨hfirst, others, ⟨hrest, rfl⟩, rfl⟩
      exact ⟨⟨hfirst, hrest⟩, rfl⟩
    · rintro ⟨⟨hfirst, hrest⟩, rfl⟩
      exact ⟨hfirst, _, ⟨hrest, rfl⟩, rfl⟩

@[simp] theorem directive?_piece (m : Mark) : m.piece.directive? = m.directive? := by
  unfold Mark.piece
  cases m.directive? <;> rfl

@[simp] theorem text_piece (print : Directive → Text) (m : Mark) :
    m.piece.text print = m.text print := by
  unfold Mark.piece Mark.text
  cases m.directive? <;> rfl

/-- The pieces of a format have its directives. -/
theorem filterMap_directive? (format : Text) :
    (piecesOf format).filterMap directive? = directives format := by
  rw [piecesOf, List.filterMap_map, directives]
  exact congrArg (List.filterMap · _) (funext directive?_piece)

/-- What the pieces of a format stand for is the format rendered. -/
theorem flatMap_text (print : Directive → Text) (format : Text) :
    (piecesOf format).flatMap (Piece.text print) = render print format := by
  rw [piecesOf, List.flatMap_map, render]
  exact congrArg (List.flatMap · _) (funext (text_piece print))

end Piece

end Calendar

end FieldValidation
