import FieldValidation.Proofs.Calendar.Completeness

/-!
# The widest cut

A text may have several cuts by the pieces of a format, where digits of open number stand in one
run. The search tries two digits before one, so of all cuts it finds the widest, that which takes
more than any other for the first directive at which the two differ. A text is accepted just where
what this cut gives is a date.

A rendering is not cut as it was rendered where a digit can be moved: one number of open width shows
one digit, the next in its run shows two of which the second may stand alone, and the first takes up
what the next leaves. With no more than two such numbers in one run this is the only way.

## Main definitions

* `Wider`: one cut takes more than another for the first directive at which they differ
* `Widest`: a cut that is wider than every other
* `Paired`: no more than two numbers of open width stand in one run
* `Shifts`: a digit can be moved

## Main results

* `cut?_eq_some_iff`: the search finds the widest cut
* `accepts_iff_widest`: a text is accepted by its widest cut
* `Cut.widest_iff`: the widest cut is that of which no digit can be moved
* `Moment.accepts_iff_of_paired`: so a rendering of which no digit can be moved is read as it was
  rendered, and any other by a wider cut
-/

namespace FieldValidation

namespace Calendar

variable {pieces : List Piece} {t : Text} {texts texts' : List (Directive × Text)}

/-- One cut takes more than another for the first directive for which they do not take the same. -/
inductive Wider : List (Directive × Text) → List (Directive × Text) → Prop
  | here {d : Directive} {taken taken' : Text} {texts texts' : List (Directive × Text)}
      (h : taken'.length < taken.length) : Wider ((d, taken) :: texts) ((d, taken') :: texts')
  | later {entry : Directive × Text} {texts texts' : List (Directive × Text)}
      (h : Wider texts texts') : Wider (entry :: texts) (entry :: texts')

theorem wider_cons_iff {d : Directive} {taken taken' : Text} :
    Wider ((d, taken) :: texts) ((d, taken') :: texts') ↔
      taken'.length < taken.length ∨ taken = taken' ∧ Wider texts texts' := by
  constructor
  · intro h
    cases h with
    | here h => exact .inl h
    | later h => exact .inr ⟨rfl, h⟩
  · rintro (h | ⟨rfl, h⟩)
    · exact .here h
    · exact .later h

theorem Wider.irrefl : ¬ Wider texts texts := by
  induction texts with
  | nil => nofun
  | cons entry texts ih =>
    intro h
    cases h with
    | here h => exact Nat.lt_irrefl _ h
    | later h => exact ih h

theorem Wider.asymm (h : Wider texts texts') : ¬ Wider texts' texts := by
  induction h with
  | here h =>
    intro h'
    cases h' with
    | here h' => exact Nat.lt_asymm h h'
    | later => exact Nat.lt_irrefl _ h
  | later h ih =>
    intro h'
    cases h' with
    | here h' => exact Nat.lt_irrefl _ h'
    | later h' => exact ih h'

/-- A cut that is wider than every other of the same text. -/
structure Widest (pieces : List Piece) (t : Text) (texts : List (Directive × Text)) : Prop where
  cut : Cut pieces t texts
  wider : ∀ texts', Cut pieces t texts' → texts' ≠ texts → Wider texts texts'

/-! ## The order in which candidates are tried -/

/-- A cut by a directive and more takes a text of its style, and is continued. -/
theorem cut_directive_iff {d : Directive} :
    Cut (.directive d :: pieces) t texts ↔
      ∃ n rest others, d.style.Has n ∧ t = d.style.write n ++ rest ∧
        texts = (d, d.style.write n) :: others ∧ Cut pieces rest others := by
  constructor
  · intro h
    cases h with
    | directive _ hn hrest => exact ⟨_, _, _, hn, rfl, rfl, hrest⟩
  · rintro ⟨n, rest, others, hn, rfl, rfl, hrest⟩
    exact .directive d hn hrest

namespace Directive

theorem pairwise_fixedDigits (width : Nat) (t : Text) :
    (fixedDigits width t).Pairwise fun first second => second.1.length < first.1.length := by
  unfold fixedDigits
  split
  · exact List.pairwise_singleton _ _
  · exact .nil

theorem pairwise_bareDigits (t : Text) :
    (bareDigits t).Pairwise fun first second => second.1.length < first.1.length := by
  cases t with
  | nil => exact .nil
  | cons u tail =>
    cases tail with
    | nil =>
      rw [bareDigits]
      split
      · exact List.pairwise_singleton _ _
      · exact .nil
    | cons v rest =>
      rw [bareDigits]
      repeat' split
      all_goals simp

/-- Of words that do not begin with each other, a text begins with one at most. -/
theorem pairwise_oneOf {words : List Text}
    (h : words.Pairwise fun word other => ¬ word <+: other ∧ ¬ other <+: word) (t : Text) :
    (oneOf words t).Pairwise fun first second => second.1.length < first.1.length := by
  rw [oneOf, List.pairwise_filterMap]
  refine h.imp fun {word other} hwords first hfirst second hsecond => ?_
  obtain ⟨rest, hrest, rfl⟩ := Option.map_eq_some_iff.mp hfirst
  obtain ⟨rest', hrest', rfl⟩ := Option.map_eq_some_iff.mp hsecond
  rcases List.prefix_or_prefix_of_prefix ⟨rest, (Text.dropPrefix?_eq_some_iff.mp hrest).symm⟩
    ⟨rest', (Text.dropPrefix?_eq_some_iff.mp hrest').symm⟩ with hbegins | hbegins
  · exact absurd hbegins hwords.1
  · exact absurd hbegins hwords.2

/-- Of the candidates for a directive those that take more are tried first. -/
theorem pairwise_candidates (d : Directive) (t : Text) :
    (d.candidates t).Pairwise fun first second => second.1.length < first.1.length := by
  cases d with
  | year | shortYear | month | day | hour | halfDayHour | minute | second =>
    exact pairwise_fixedDigits _ t
  | bareMonth | bareDay | bareHalfDayHour => exact pairwise_bareDigits t
  | shortMonthName | monthName | upperMeridiem | lowerMeridiem =>
    exact pairwise_oneOf (by decide) t
  | bareHour =>
    refine List.pairwise_append.mpr ⟨pairwise_oneOf (by decide) t, pairwise_bareDigits t, ?_⟩
    rintro ⟨taken, rest⟩ hzero other hother
    obtain ⟨n, hn, rfl, rfl⟩ := mem_oneOf.mp hzero
    obtain rfl : n = 0 := Nat.lt_one_iff.mp hn
    have hnone : bareDigits (unit '0' :: rest) = [] := by cases rest <;> simp [bareDigits]
    rw [show (Style.word [[unit '0']]).write 0 = [unit '0'] from rfl, List.singleton_append,
      hnone] at hother
    cases hother

end Directive

/-! ## The search finds the widest cut -/

/-- What the search finds is wider than every other cut. -/
theorem widest_of_cut? (h : cut? pieces t = some texts) : Widest pieces t texts := by
  refine ⟨cut_of_cut? h, ?_⟩
  induction pieces generalizing t texts with
  | nil =>
    intro texts' h' hne
    cases h'
    cases h
    exact absurd rfl hne
  | cons piece pieces ih =>
    intro texts' h' hne
    cases piece with
    | literal u =>
      cases h' with
      | literal _ hrest =>
        rw [cut?, if_pos rfl] at h
        exact ih h texts' hrest hne
    | directive d =>
      obtain ⟨n', rest', others', hn', hwhole, rfl, hrest'⟩ := cut_directive_iff.mp h'
      unfold cut? at h
      obtain ⟨before, ⟨taken, rest⟩, after, hcandidates, hfound, hbefore⟩ :=
        List.findSome?_eq_some_iff.mp h
      obtain ⟨others, hothers, rfl⟩ := Option.map_eq_some_iff.mp hfound
      have hmem : (d.style.write n', rest') ∈ before ++ (taken, rest) :: after := by
        rw [← hcandidates]
        exact Directive.mem_candidates.mpr ⟨n', hn', rfl, hwhole⟩
      rcases List.mem_append.mp hmem with hmem | hmem
      · obtain ⟨texts, htexts⟩ := hrest'.exists_cut?
        have hnone := hbefore _ hmem
        simp only [htexts] at hnone
        cases hnone
      · rcases List.mem_cons.mp hmem with heq | hmem
        · obtain ⟨rfl, rfl⟩ := Prod.mk.inj heq
          exact .later (ih hothers others' hrest' fun he => hne (by rw [he]))
        · have hordered := d.pairwise_candidates t
          rw [hcandidates, List.pairwise_append] at hordered
          exact .here (List.rel_of_pairwise_cons hordered.2.1 hmem)

/-- The search finds the widest cut. -/
theorem cut?_eq_some_iff : cut? pieces t = some texts ↔ Widest pieces t texts := by
  constructor
  · exact widest_of_cut?
  · intro h
    obtain ⟨texts', htexts⟩ := h.cut.exists_cut?
    have hwidest := widest_of_cut? htexts
    rw [htexts]
    by_contra hne
    have hne : texts' ≠ texts := fun he => hne (congrArg some he)
    exact (h.wider texts' hwidest.cut hne).asymm (hwidest.wider texts h.cut hne.symm)

/-- A text is accepted where the letters of the format are supported, the parts are read off the
widest cut, and the day is real. -/
theorem accepts_iff_widest {thisYear : Nat} {format text : Text} :
    accepts thisYear format text = true ↔
      Supported format ∧ ∃ texts readings, Widest (piecesOf format) text texts ∧
        readings? [] texts = some readings ∧ isRealDay thisYear readings = true := by
  rw [accepts_iff]
  constructor
  · rintro ⟨pieces, texts, readings, hparse, hcut, hread, hreal⟩
    obtain ⟨hsupported, rfl⟩ := Piece.parse?_eq_some_iff.mp hparse
    exact ⟨hsupported, texts, readings, cut?_eq_some_iff.mp hcut, hread, hreal⟩
  · rintro ⟨hsupported, texts, readings, hwidest, hread, hreal⟩
    exact ⟨_, texts, readings, Piece.parse?_eq_some_iff.mpr ⟨hsupported, rfl⟩,
      cut?_eq_some_iff.mpr hwidest, hread, hreal⟩

/-! ## Digits that can be moved -/

/-- A run goes on with numbers of known width, up to one of open width after which it has a known
width again. -/
def hasOneOpen : List Piece → Bool
  | .directive d :: pieces =>
    match d.style with
    | .padded _ => hasOneOpen pieces
    | .bare _ => (runWidth? pieces).isSome
    | .word _ => false
  | _ => false

/-- No more than two numbers of open width stand in one run, and no literal digit between two. -/
def Paired : List Piece → Prop
  | [] => True
  | .literal _ :: pieces => Paired pieces
  | .directive d :: pieces =>
    (d.style.isBare = true → (runWidth? pieces).isSome = true ∨ hasOneOpen pieces = true) ∧
      Paired pieces

/-- The next number of open width in a run shows two digits, of which the second may stand alone. So
the first digit of the run can be spared: the numbers before take up one digit each. -/
inductive Spares : List Piece → List (Directive × Text) → Prop
  | padded {d : Directive} {width : Nat} (hd : d.style = .padded width) {taken : Text}
      {pieces : List Piece} {texts : List (Directive × Text)} (h : Spares pieces texts) :
      Spares (.directive d :: pieces) ((d, taken) :: texts)
  | bare {d : Directive} (hd : d.style.isBare = true) (u : CodeUnit) {v : CodeUnit} {n : Nat}
      (hn : d.style.Has n) (hv : d.style.write n = [v]) {pieces : List Piece}
      {texts : List (Directive × Text)} : Spares (.directive d :: pieces) ((d, [u, v]) :: texts)

/-- A number of open width shows one digit other than zero, and what follows can spare one. -/
inductive Shifts : List Piece → List (Directive × Text) → Prop
  | literal (u : CodeUnit) {pieces : List Piece} {texts : List (Directive × Text)}
      (h : Shifts pieces texts) : Shifts (.literal u :: pieces) texts
  | later (d : Directive) (taken : Text) {pieces : List Piece} {texts : List (Directive × Text)}
      (h : Shifts pieces texts) : Shifts (.directive d :: pieces) ((d, taken) :: texts)
  | here {d : Directive} (hd : d.style.isBare = true) {u : CodeUnit} (hu : u ≠ unit '0')
      {pieces : List Piece} {texts : List (Directive × Text)} (h : Spares pieces texts) :
      Shifts (.directive d :: pieces) ((d, [u]) :: texts)

namespace Style

variable {s : Style} {n : Nat}

/-- A number of open width is written with one digit, or with two of which the first is not zero. -/
theorem write_of_isBare (hs : s.isBare = true) (hn : s.Has n) :
    (∃ u, u.isDigit = true ∧ s.write n = [u]) ∨
      ∃ u v, (u.isDigit = true ∧ u ≠ unit '0') ∧ v.isDigit = true ∧ s.write n = [u, v] := by
  cases s with
  | padded | word => cases hs
  | bare first =>
    have hlt : n < 100 := hn.2
    by_cases hten : n < 10
    · exact .inl ⟨_, CodeUnit.isDigit_digit hten, Text.ofNat_of_lt_ten hten⟩
    · have hfirst : n / 10 < 10 := by omega
      have hpos : 0 < n / 10 := by omega
      have hzero := (CodeUnit.digit_ne_zero_iff hfirst).mpr hpos
      exact .inr ⟨_, _, ⟨CodeUnit.isDigit_digit hfirst, hzero⟩,
        CodeUnit.isDigit_digit (Nat.mod_lt n (by decide)),
        Text.ofNat_of_ten_le (Nat.not_lt.mp hten) hlt⟩

end Style

/-- Two digits of which the first is not zero are a number of open width. -/
theorem Directive.exists_write_pair {d : Directive} (hd : d.style.isBare = true) {u v : CodeUnit}
    (hu : u.isDigit = true) (hzero : u ≠ unit '0') (hv : v.isDigit = true) :
    ∃ n, d.style.Has n ∧ d.style.write n = [u, v] := by
  have hbare : ([u, v], []) ∈ bareDigits [u, v] := by simp [bareDigits, hu, hzero, hv]
  have hmem : ([u, v], []) ∈ d.candidates [u, v] := by
    cases d with
    | bareMonth | bareDay | bareHalfDayHour => exact hbare
    | bareHour => exact List.mem_append_right _ hbare
    | _ => cases hd
  obtain ⟨n, hn, hwrite, -⟩ := mem_candidates.mp hmem
  exact ⟨n, hn, hwrite.symm⟩

/-- Where a digit can be spared, what follows it is cut by the same pieces. -/
theorem Spares.exists_cut (hspares : Spares pieces texts) (h : Cut pieces t texts) :
    ∃ u rest others, u.isDigit = true ∧ t = u :: rest ∧ Cut pieces rest others := by
  induction hspares generalizing t with
  | @padded d width hd taken pieces texts hspares ih =>
    obtain ⟨n, rest, _, hn, rfl, ⟨⟩, hrest⟩ := cut_directive_iff.mp h
    obtain ⟨v, rest', others, hv, rfl, hothers⟩ := ih hrest
    rw [hd] at hn ⊢
    have hdigits : ∀ u ∈ (Style.padded width).write n ++ [v], u.isDigit = true := by
      intro u hu
      rcases List.mem_append.mp hu with hu | hu
      · exact Text.isDigit_lastDigits hu
      · rwa [List.mem_singleton.mp hu]
    obtain ⟨u, tail, hcons⟩ := List.exists_cons_of_ne_nil
      (List.append_ne_nil_of_right_ne_nil ((Style.padded width).write n) (List.cons_ne_nil v []))
    rw [hcons] at hdigits
    obtain ⟨hu, htail⟩ := List.forall_mem_cons.mp hdigits
    have hlength : tail.length = width := by
      have hlengths := congrArg List.length hcons
      simpa [Style.write] using hlengths.symm
    obtain ⟨m, hm, hwrite⟩ := Style.exists_write_padded hlength htail
    have hcut := Cut.directive d (hd ▸ hm) hothers
    rw [hd, hwrite] at hcut
    refine ⟨u, tail ++ rest', _, hu, ?_, hcut⟩
    rw [List.append_cons, hcons]
    rfl
  | @bare d hd u v n hn hv pieces texts =>
    obtain ⟨m, rest, _, hm, rfl, heq, hrest⟩ := cut_directive_iff.mp h
    obtain ⟨hwrite, rfl⟩ := List.cons.inj heq
    have hpair : d.style.write m = [u, v] := (Prod.mk.inj hwrite).2.symm
    rcases d.style.write_of_isBare hd hm with ⟨_, -, hone⟩ | ⟨_, _, ⟨hu, -⟩, -, htwo⟩
    · rw [hpair] at hone
      cases hone
    · rw [hpair] at htwo ⊢
      cases htwo
      have hcut := Cut.directive d hn hrest
      rw [hv] at hcut
      exact ⟨u, v :: rest, _, hu, rfl, hcut⟩

/-- A cut of which a digit can be moved is not the widest. -/
theorem Shifts.exists_wider (hshifts : Shifts pieces texts) (h : Cut pieces t texts) :
    ∃ texts', Cut pieces t texts' ∧ Wider texts' texts := by
  induction hshifts generalizing t with
  | literal u _ ih =>
    cases h with
    | literal _ hrest =>
      obtain ⟨texts', hcut, hwider⟩ := ih hrest
      exact ⟨texts', .literal u hcut, hwider⟩
  | later d taken _ ih =>
    obtain ⟨n, rest, _, hn, rfl, ⟨⟩, hrest⟩ := cut_directive_iff.mp h
    obtain ⟨texts', hcut, hwider⟩ := ih hrest
    exact ⟨_, .directive d hn hcut, .later hwider⟩
  | @here d hd u hzero pieces texts hspares =>
    obtain ⟨n, rest, _, hn, rfl, heq, hrest⟩ := cut_directive_iff.mp h
    obtain ⟨hwrite, rfl⟩ := List.cons.inj heq
    have hone : d.style.write n = [u] := (Prod.mk.inj hwrite).2.symm
    have hu : u.isDigit = true := by
      rcases d.style.write_of_isBare hd hn with ⟨_, hu, hwritten⟩ | ⟨_, _, -, -, hwritten⟩
      · rw [hone] at hwritten
        cases hwritten
        exact hu
      · rw [hone] at hwritten
        cases hwritten
    obtain ⟨v, rest', others, hv, rfl, hothers⟩ := hspares.exists_cut hrest
    obtain ⟨m, hm, hpair⟩ := Directive.exists_write_pair hd hu hzero hv
    have hcut := Cut.directive d hm hothers
    rw [hpair] at hcut
    rw [hone]
    exact ⟨_, hcut, .here Nat.one_lt_two⟩

/-- In a run with one more number of open width a digit is spared only by that one. -/
theorem spares_of_cut {u : CodeUnit} (hu : u.isDigit = true) (hopen : hasOneOpen pieces = true)
    (h : Cut pieces (u :: t) texts) (h' : Cut pieces t texts') : Spares pieces texts := by
  induction pieces generalizing u t texts texts' with
  | nil => cases hopen
  | cons piece pieces ih =>
    cases piece with
    | literal => cases hopen
    | directive d =>
      obtain ⟨n, rest, _, hn, hwhole, rfl, hrest⟩ := cut_directive_iff.mp h
      obtain ⟨n', rest', _, hn', rfl, rfl, hrest'⟩ := cut_directive_iff.mp h'
      unfold hasOneOpen at hopen
      cases hd : d.style with
      | word => rw [hd] at hopen; cases hopen
      | padded width =>
        rw [hd] at hopen hwhole
        have hdigits : ∀ v ∈ u :: (Style.padded width).write n', v.isDigit = true :=
          List.forall_mem_cons.mpr ⟨hu, fun v => Text.isDigit_lastDigits⟩
        obtain ⟨front, v, hfront⟩ :
            ∃ front v, u :: (Style.padded width).write n' = front ++ [v] :=
          ⟨_, _, (List.dropLast_concat_getLast (List.cons_ne_nil _ _)).symm⟩
        have hlength : front.length = ((Style.padded width).write n).length := by
          have hlengths := congrArg List.length hfront
          simpa [Style.write] using hlengths.symm
        rw [← List.cons_append, hfront, List.append_assoc] at hwhole
        obtain ⟨-, rfl⟩ := List.append_inj hwhole hlength
        exact .padded hd (ih (hdigits v (by rw [hfront]; simp)) hopen hrest hrest')
      | bare first =>
        have hbare : d.style.isBare = true := by rw [hd]; rfl
        rw [hd] at hopen
        obtain ⟨width, hwidth⟩ := Option.isSome_iff_exists.mp hopen
        have hlength : (u :: d.style.write n').length = (d.style.write n).length := by
          have hrun := congrArg Text.leadingDigits hwhole
          have hdigits (m : Nat) : ∀ v ∈ d.style.write m, v.isDigit = true := by
            rw [hd]
            exact fun v => Text.isDigit_ofNat
          rw [Text.leadingDigits_cons_of_pos hu, Text.leadingDigits_append (hdigits n'),
            Text.leadingDigits_append (hdigits n), hrest.leadingDigits_eq hwidth,
            hrest'.leadingDigits_eq hwidth] at hrun
          rw [List.length_cons]
          omega
        rw [← List.cons_append] at hwhole
        obtain ⟨hwrite, rfl⟩ := List.append_inj hwhole hlength
        rcases d.style.write_of_isBare hbare hn' with ⟨v, -, hone⟩ | ⟨_, _, -, -, htwo⟩
        · rw [← hd, ← hwrite, hone]
          exact .bare hbare u hn' hone
        · rw [htwo] at hwrite
          rcases d.style.write_of_isBare hbare hn with ⟨_, -, hn⟩ | ⟨_, _, -, -, hn⟩ <;>
            rw [hn] at hwrite <;> cases hwrite

/-- With no more than two numbers of open width in one run, a digit can be moved of every cut that
is not the widest. -/
theorem shifts_of_wider (hpaired : Paired pieces) (h : Cut pieces t texts)
    (h' : Cut pieces t texts') (hwider : Wider texts' texts) : Shifts pieces texts := by
  induction h generalizing texts' with
  | nil =>
    cases h'
    cases hwider
  | literal u hrest ih =>
    cases h' with
    | literal _ hrest' => exact .literal u (ih hpaired hrest' hwider)
  | @directive d n hn pieces rest texts hrest ih =>
    obtain ⟨n', rest', others, hn', hwhole, rfl, hrest'⟩ := cut_directive_iff.mp h'
    rcases wider_cons_iff.mp hwider with hlength | ⟨hwrite, hwider⟩
    case inr =>
      rw [hwrite] at hwhole
      obtain rfl := List.append_cancel_left hwhole
      exact .later d _ (ih hpaired.2 hrest' hwider)
    case inl =>
      have hbare : d.style.isBare = true := by
        by_contra hbare
        have hsame := Directive.write_append_inj hn hn' hwhole fun h => absurd h hbare
        rw [hsame.1] at hlength
        exact Nat.lt_irrefl _ hlength
      rcases d.style.write_of_isBare hbare hn with ⟨u, -, hone⟩ | ⟨_, _, -, -, htwo⟩ <;>
        rcases d.style.write_of_isBare hbare hn' with ⟨_, -, hone'⟩ | ⟨_, v, ⟨-, hu⟩, hv, htwo'⟩
      · rw [hone, hone'] at hlength
        exact absurd hlength (by simp)
      · rw [hone, htwo'] at hwhole
        obtain ⟨rfl, rfl⟩ := List.cons.inj hwhole
        have hrest : Cut pieces (v :: rest') texts := hrest
        rw [hone]
        refine .here hbare hu ?_
        rcases hpaired.1 hbare with hwidth | hopen
        · obtain ⟨width, hwidth⟩ := Option.isSome_iff_exists.mp hwidth
          have hrun := hrest.leadingDigits_eq hwidth
          rw [Text.leadingDigits_cons_of_pos hv, hrest'.leadingDigits_eq hwidth] at hrun
          exact absurd hrun (Nat.succ_ne_self width)
        · exact spares_of_cut hv hopen hrest hrest'
      · rw [htwo, hone'] at hlength
        exact absurd hlength (by simp)
      · rw [htwo, htwo'] at hlength
        exact absurd hlength (by simp)

/-- With no more than two numbers of open width in one run, the widest cut is that of which no digit
can be moved. -/
theorem Cut.widest_iff (h : Cut pieces t texts) (hpaired : Paired pieces) :
    Widest pieces t texts ↔ ¬ Shifts pieces texts := by
  constructor
  · intro hwidest hshifts
    obtain ⟨texts', hcut, hwider⟩ := hshifts.exists_wider h
    have hne : texts' ≠ texts := by
      rintro rfl
      exact hwider.irrefl
    exact hwider.asymm (hwidest.wider texts' hcut hne)
  · intro hshifts
    obtain ⟨texts', htexts⟩ := h.exists_cut?
    have hwidest := widest_of_cut? htexts
    by_cases hsame : texts = texts'
    · rwa [hsame]
    · exact absurd (shifts_of_wider hpaired h hwidest.cut (hwidest.wider texts h hsame)) hshifts

/-! ## The renderings of a moment -/

/-- A rendering of which no digit can be moved is accepted if and only if the hour is the same both
ways, where the format gives it both ways. Any other is accepted by another cut, if at all. -/
theorem Moment.accepts_iff_of_paired (thisYear : Nat) (m : Moment) {format : Text}
    (hsupported : Supported format)
    (hyear : Names format .day → Names format .month → Names format .year)
    (hshort : .shortYear ∈ directives format → 1970 ≤ m.year ∧ m.year ≤ 2069)
    (hpaired : Paired (piecesOf format)) :
    (¬ Shifts (piecesOf format) (m.textsIn format) →
      (accepts thisYear format (m.render format) = true ↔
        ((∃ d ∈ directives format, d.IsWholeDay) → (∃ d ∈ directives format, d.IsHalfDay) →
          1 ≤ m.hour ∧ m.hour ≤ 12))) ∧
    (Shifts (piecesOf format) (m.textsIn format) →
      ∃ texts, Widest (piecesOf format) (m.render format) texts ∧
        Wider texts (m.textsIn format) ∧
        (accepts thisYear format (m.render format) = true ↔ ∃ readings,
          readings? [] texts = some readings ∧ isRealDay thisYear readings = true)) := by
  have hcut := m.cut_render format
  constructor
  · intro hshifts
    have hfound := cut?_eq_some_iff.mpr ((hcut.widest_iff hpaired).mpr hshifts)
    exact m.accepts_iff_of_cut? thisYear hsupported hyear hshort hfound
  · intro hshifts
    obtain ⟨texts, htexts⟩ := hcut.exists_cut?
    have hwidest := widest_of_cut? htexts
    have hne : m.textsIn format ≠ texts := by
      intro hsame
      rw [← hsame] at hwidest
      exact (hcut.widest_iff hpaired).mp hwidest hshifts
    refine ⟨texts, hwidest, hwidest.wider _ hcut hne, ?_⟩
    rw [accepts_iff_widest]
    constructor
    · rintro ⟨-, texts', readings, hwidest', hread, hreal⟩
      obtain rfl := Option.some.inj (htexts.symm.trans (cut?_eq_some_iff.mpr hwidest'))
      exact ⟨readings, hread, hreal⟩
    · rintro ⟨readings, hread, hreal⟩
      exact ⟨hsupported, texts, readings, hwidest, hread, hreal⟩

end Calendar

end FieldValidation
