import Mathlib.Data.List.Forall2
import FieldValidation.Proofs.Calendar.Cutting

/-!
# The other half of the day

Where a format names the half of the day, the words for it can be exchanged in a text, and the
search for a cut does not notice: it tells apart where digits end and which words there are, and a
word for one half is followed by the same as the word for the other. The search goes through
the same candidates in both texts and finds the same cut, but for the words that were exchanged.

The digits of a text are divided among the pieces in many ways before a cut is found, so two texts
are compared without dividing them: digits stand anywhere, and pieces that are made of digits claim
none.

## Main definitions

* `Directive.otherHalf`: the text for a directive with the half of the day exchanged
* `exchange`: the texts of a cut with the halves exchanged
* `Exchanged`: the second text is the first with the halves exchanged

## Main results

* `Exchanged.candidates`: the candidates for a directive in both texts
* `Exchanged.cut?_eq`: the search in both texts
* `Cut.exists_exchanged`: a text that is cut can be exchanged
-/

namespace FieldValidation

namespace Calendar

/-- Whether the style writes words. -/
def Style.isWord : Style → Bool
  | word _ => true
  | padded _ | bare _ => false

/-- Whether a piece stands for digits. -/
def Piece.isDigits : Piece → Bool
  | literal u => u.isDigit
  | directive d => !d.style.isWord

namespace Directive

variable {d : Directive} {t : Text}

/-- The text for a directive with the half of the day exchanged. -/
def otherHalf (d : Directive) (t : Text) : Text :=
  if d.part = .meridiem then d.print (1 - (d.read? t).getD 0) else t

theorem otherHalf_of_number (h : d.style.isWord = false) (t : Text) : d.otherHalf t = t := by
  cases d <;> first | rfl | cases h

/-- The other half of the day is told by a word as well. -/
theorem exists_otherHalf {words : List Text} (hstyle : d.style = .word words) :
    ∀ n < words.length, ∃ m < words.length, d.otherHalf (words.getD n []) = words.getD m [] := by
  cases d <;> cases hstyle <;> decide

/-- A number is written with digits. -/
theorem isDigit_write (h : d.style.isWord = false) {n : Nat} {u : CodeUnit}
    (hu : u ∈ d.style.write n) : u.isDigit = true := by
  cases hstyle : d.style with
  | padded width => rw [hstyle] at hu; exact Text.isDigit_lastDigits hu
  | bare first => rw [hstyle] at hu; exact Text.isDigit_ofNat hu
  | word words => rw [hstyle] at h; cases h

theorem write_ne_nil (h : d.style.isWord = false) (n : Nat) : d.style.write n ≠ [] := by
  have hpadded (width : Nat) (hwidth : 0 < width) : Text.lastDigits width n ≠ [] := by
    rw [← List.length_pos_iff, Text.length_lastDigits]
    exact hwidth
  cases d with
  | year => exact hpadded 4 (by decide)
  | shortYear | month | day | hour | halfDayHour | minute | second => exact hpadded 2 (by decide)
  | bareMonth | bareDay | bareHour | bareHalfDayHour => exact Text.ofNat_ne_nil n
  | shortMonthName | monthName | upperMeridiem | lowerMeridiem => cases h

/-- A text that begins without a digit has no candidates for a number. -/
theorem candidates_of_number (h : d.style.isWord = false) (ht : Text.leadingDigits t = 0) :
    d.candidates t = [] := by
  rw [List.eq_nil_iff_forall_not_mem]
  rintro ⟨taken, rest⟩ hmem
  obtain ⟨n, -, rfl, rfl⟩ := mem_candidates.mp hmem
  rw [Text.leadingDigits_append fun u hu => isDigit_write h hu] at ht
  exact write_ne_nil h n (List.eq_nil_of_length_eq_zero (by omega))

/-- A text that begins with a digit has no candidates for a word. -/
theorem candidates_of_digit {words : List Text} (hstyle : d.style = .word words) {u : CodeUnit}
    (hu : u.isDigit = true) (t : Text) : d.candidates (u :: t) = [] := by
  rw [List.eq_nil_iff_forall_not_mem]
  rintro ⟨taken, rest⟩ hmem
  obtain ⟨n, hn, rfl, heq⟩ := mem_candidates.mp hmem
  rw [hstyle] at hn heq
  have hnone : Text.leadingDigits (words.getD n [] ++ rest) = 0 :=
    leadingDigits_word hstyle hn rest
  rw [show words.getD n [] ++ rest = u :: t from heq.symm,
    Text.leadingDigits_cons_of_pos hu] at hnone
  cases hnone

/-- A text that begins with a word has this one candidate, since no word begins with another. -/
theorem candidates_of_word {words : List Text} (hstyle : d.style = .word words) {n : Nat}
    (hn : n < words.length) (t : Text) :
    d.candidates (words.getD n [] ++ t) = [(words.getD n [], t)] := by
  have hnodup : words.Nodup := by cases d <;> cases hstyle <;> decide
  have honeOf (s : Text) : d.candidates s = oneOf words s := by
    cases d <;> cases hstyle <;> rfl
  have hmem : words.getD n [] ∈ words := by
    rw [List.getD_eq_getElem?_getD, List.getElem?_eq_getElem hn]
    exact List.getElem_mem hn
  have hothers : ∀ word ∈ words, word ≠ words.getD n [] →
      (Text.dropPrefix? word (words.getD n [] ++ t)).map (word, ·) = none := by
    intro word hword hne
    rw [Option.map_eq_none_iff, Option.eq_none_iff_forall_ne_some]
    intro rest hrest
    obtain ⟨m, hm, rfl⟩ := List.mem_iff_getElem.mp hword
    have hget : words[m] = words.getD m [] := by simp [hm]
    rw [hget] at hrest hne
    have hprefix : words.getD m [] <+: words.getD n [] ++ t :=
      ⟨rest, (Text.dropPrefix?_eq_some_iff.mp hrest).symm⟩
    rcases List.prefix_or_prefix_of_prefix hprefix (List.prefix_append _ t) with h | h
    · exact hne (by rw [eq_of_word_begins hstyle m hm n hn h])
    · exact hne (by rw [eq_of_word_begins hstyle n hn m hm h])
  obtain ⟨before, after, hwords⟩ := List.append_of_mem hmem
  rw [honeOf, oneOf]
  generalize words.getD n [] = word at hmem hothers hwords
  subst hwords
  rw [List.nodup_append, List.nodup_cons] at hnodup
  obtain ⟨-, ⟨hafter, -⟩, hbefore⟩ := hnodup
  have hword : (Text.dropPrefix? word (word ++ t)).map (word, ·) = some (word, t) := by
    rw [Text.dropPrefix?_eq_some_iff.mpr rfl, Option.map_some]
  have hleft := List.filterMap_eq_nil_iff.mpr fun other hmem =>
    hothers other (List.mem_append_left _ hmem) (hbefore other hmem word List.mem_cons_self)
  have hright := List.filterMap_eq_nil_iff.mpr fun other hmem =>
    hothers other (List.mem_append_right _ (List.mem_cons_of_mem _ hmem))
      (ne_of_mem_of_not_mem hmem hafter)
  rw [List.filterMap_append, hleft, List.filterMap_cons, hword, hright, List.nil_append]

end Directive

/-! ## Texts with the halves of the day exchanged -/

/-- The texts of a cut with the halves of the day exchanged. -/
def exchange (texts : List (Directive × Text)) : List (Directive × Text) :=
  texts.map fun entry => (entry.1, entry.1.otherHalf entry.2)

/-- The second text is the first with the halves of the day exchanged, as a format names them: both
have the same digits in the same places, and what stands between them is what the pieces stand for
that are not made of digits. -/
inductive Exchanged : List Piece → Text → Text → Prop
  | nil : Exchanged [] [] []
  | digit {u : CodeUnit} (hu : u.isDigit = true) {pieces : List Piece} {t t' : Text}
      (hrest : Exchanged pieces t t') : Exchanged pieces (u :: t) (u :: t')
  | digits {piece : Piece} (hpiece : piece.isDigits = true) {pieces : List Piece} {t t' : Text}
      (hrest : Exchanged pieces t t') : Exchanged (piece :: pieces) t t'
  | literal {u : CodeUnit} (hu : u.isDigit = false) {pieces : List Piece} {t t' : Text}
      (hrest : Exchanged pieces t t') : Exchanged (.literal u :: pieces) (u :: t) (u :: t')
  | word {d : Directive} {words : List Text} (hstyle : d.style = .word words) {n : Nat}
      (hn : n < words.length) {pieces : List Piece} {t t' : Text}
      (hrest : Exchanged pieces t t') :
      Exchanged (.directive d :: pieces) (words.getD n [] ++ t)
        (d.otherHalf (words.getD n []) ++ t')

namespace Exchanged

variable {piece : Piece} {pieces : List Piece} {d : Directive} {s s' : Text}

/-- Both texts begin with the same digit, or neither with any. -/
theorem heads (h : Exchanged pieces s s') :
    (∃ u t t', u.isDigit = true ∧ s = u :: t ∧ s' = u :: t' ∧ Exchanged pieces t t') ∨
      Text.leadingDigits s = 0 ∧ Text.leadingDigits s' = 0 := by
  induction h with
  | nil => exact .inr ⟨rfl, rfl⟩
  | digit hu hrest ih => exact .inl ⟨_, _, _, hu, rfl, rfl, hrest⟩
  | digits hpiece hrest ih =>
    refine ih.imp_left ?_
    rintro ⟨u, t, t', hu, rfl, rfl, hexchanged⟩
    exact ⟨u, t, t', hu, rfl, rfl, .digits hpiece hexchanged⟩
  | literal hu hrest ih =>
    exact .inr ⟨Text.leadingDigits_cons_of_neg hu _, Text.leadingDigits_cons_of_neg hu _⟩
  | @word d words hstyle n hn pieces t t' hrest ih =>
    obtain ⟨m, hm, hother⟩ := Directive.exists_otherHalf hstyle n hn
    rw [hother]
    exact .inr ⟨Directive.leadingDigits_word hstyle hn t, Directive.leadingDigits_word hstyle hm t'⟩

/-- A piece that is made of digits claims none. -/
theorem of_digits (h : Exchanged (piece :: pieces) s s') (hpiece : piece.isDigits = true) :
    Exchanged pieces s s' := by
  generalize hall : piece :: pieces = all at h
  induction h with
  | nil => cases hall
  | digit hu hrest ih => exact .digit hu (ih hall)
  | digits _ hrest ih =>
    obtain ⟨-, rfl⟩ := List.cons.inj hall
    exact hrest
  | literal hu hrest ih =>
    obtain ⟨rfl, -⟩ := List.cons.inj hall
    rw [Piece.isDigits, hu] at hpiece
    cases hpiece
  | word hstyle hn hrest ih =>
    obtain ⟨rfl, -⟩ := List.cons.inj hall
    rw [Piece.isDigits, hstyle] at hpiece
    cases hpiece

theorem append_digits {run : Text} (hrun : ∀ u ∈ run, u.isDigit = true)
    (h : Exchanged pieces s s') : Exchanged pieces (run ++ s) (run ++ s') := by
  induction run with
  | nil => exact h
  | cons u rest ih =>
    obtain ⟨hu, hrest⟩ := List.forall_mem_cons.mp hrun
    exact .digit hu (ih hrest)

/-! ## The candidates in both texts -/

/-- The same is taken, and what is left of both texts has the halves of the day exchanged. -/
def Alike (pieces : List Piece) (c c' : Text × Text) : Prop :=
  c'.1 = c.1 ∧ Exchanged pieces c.2 c'.2

theorem fixedDigits_cons {u : CodeUnit} (hu : u.isDigit = true) (n : Nat) (t : Text) :
    Directive.fixedDigits (n + 1) (u :: t) =
      (Directive.fixedDigits n t).map fun c => (u :: c.1, c.2) := by
  unfold Directive.fixedDigits
  simp only [List.take_succ_cons, List.drop_succ_cons, List.length_cons, List.all_cons, hu,
    Bool.true_and, Nat.add_right_cancel_iff]
  split <;> rfl

theorem fixedDigits_succ_of_neg {t : Text} (ht : Text.leadingDigits t = 0) (n : Nat) :
    Directive.fixedDigits (n + 1) t = [] := by
  unfold Directive.fixedDigits
  cases t with
  | nil => simp
  | cons u rest =>
    have hu : u.isDigit = false := Text.leadingDigits_eq_zero_iff.mp ht u rfl
    simp [hu]

theorem fixedDigits (h : Exchanged pieces s s') (n : Nat) :
    List.Forall₂ (Alike pieces) (Directive.fixedDigits n s) (Directive.fixedDigits n s') := by
  induction n generalizing s s' with
  | zero => exact .cons ⟨rfl, h⟩ .nil
  | succ n ih =>
    rcases h.heads with ⟨u, t, t', hu, rfl, rfl, hrest⟩ | ⟨hs, hs'⟩
    · rw [fixedDigits_cons hu, fixedDigits_cons hu, List.forall₂_map_left_iff,
        List.forall₂_map_right_iff]
      exact (ih hrest).imp fun c c' hc => ⟨congrArg (u :: ·) hc.1, hc.2⟩
    · rw [fixedDigits_succ_of_neg hs, fixedDigits_succ_of_neg hs']
      exact .nil

theorem bareDigits_of_neg {t : Text} (ht : Text.leadingDigits t = 0) :
    Directive.bareDigits t = [] :=
  Directive.candidates_of_number (d := .bareDay) rfl ht

theorem bareDigits_cons_of_neg {u : CodeUnit} (hu : u.isDigit = true) (hzero : u ≠ unit '0')
    {t : Text} (ht : Text.leadingDigits t = 0) : Directive.bareDigits (u :: t) = [([u], t)] := by
  cases t with
  | nil => simp [Directive.bareDigits, hu, hzero]
  | cons v rest =>
    have hv : v.isDigit = false := Text.leadingDigits_eq_zero_iff.mp ht v rfl
    simp [Directive.bareDigits, hu, hzero, hv]

theorem bareDigits (h : Exchanged pieces s s') :
    List.Forall₂ (Alike pieces) (Directive.bareDigits s) (Directive.bareDigits s') := by
  rcases h.heads with ⟨u, t, t', hu, rfl, rfl, hrest⟩ | ⟨hs, hs'⟩
  · by_cases hzero : u = unit '0'
    · have hnone (t : Text) : Directive.bareDigits (u :: t) = [] := by
        cases t <;> simp [Directive.bareDigits, hzero]
      rw [hnone, hnone]
      exact .nil
    · rcases hrest.heads with ⟨v, r, r', hv, rfl, rfl, hleft⟩ | ⟨ht, ht'⟩
      · have hboth (r : Text) :
            Directive.bareDigits (u :: v :: r) = [([u, v], r), ([u], v :: r)] := by
          simp [Directive.bareDigits, hu, hzero, hv]
        rw [hboth, hboth]
        exact .cons ⟨rfl, hleft⟩ (.cons ⟨rfl, hrest⟩ .nil)
      · rw [bareDigits_cons_of_neg hu hzero ht, bareDigits_cons_of_neg hu hzero ht']
        exact .cons ⟨rfl, hrest⟩ .nil
  · rw [bareDigits_of_neg hs, bareDigits_of_neg hs']
    exact .nil

/-- The candidates for a number are the same in both texts, in the same order. -/
theorem candidates (h : Exchanged pieces s s') (hd : d.style.isWord = false) :
    List.Forall₂ (Alike pieces) (d.candidates s) (d.candidates s') := by
  cases d with
  | year => exact h.fixedDigits 4
  | shortYear | month | day | hour | halfDayHour | minute | second => exact h.fixedDigits 2
  | bareMonth | bareDay | bareHalfDayHour => exact h.bareDigits
  | shortMonthName | monthName | upperMeridiem | lowerMeridiem => cases hd
  | bareHour =>
    refine List.rel_append ?_ h.bareDigits
    have hzero (t : Text) : Directive.oneOf [[unit '0']] (unit '0' :: t) = [([unit '0'], t)] := by
      simp [Directive.oneOf, Text.dropPrefix?]
    rcases h.heads with ⟨u, t, t', hu, rfl, rfl, hrest⟩ | ⟨hs, hs'⟩
    · by_cases hu : u = unit '0'
      · subst hu
        rw [hzero, hzero]
        exact .cons ⟨rfl, hrest⟩ .nil
      · have hnone (t : Text) : Directive.oneOf [[unit '0']] (u :: t) = [] := by
          simp [Directive.oneOf, Text.dropPrefix?, Ne.symm hu]
        rw [hnone, hnone]
        exact .nil
    · have hnone {t : Text} (ht : Text.leadingDigits t = 0) :
          Directive.oneOf [[unit '0']] t = [] := by
        have hall := Directive.candidates_of_number (d := .bareHour) rfl ht
        exact (List.append_eq_nil_iff.mp hall).1
      rw [hnone hs, hnone hs']
      exact .nil

/-! ## The search in both texts -/

theorem findSome?_of_forall₂ {α β : Type} {R : α → α → Prop} {f g : α → Option β} {k : β → β}
    (hfg : ∀ x y, R x y → g y = (f x).map k) {xs ys : List α} (h : List.Forall₂ R xs ys) :
    ys.findSome? g = (xs.findSome? f).map k := by
  induction h with
  | nil => rfl
  | @cons x y xs ys hxy _ ih =>
    rw [List.findSome?_cons, List.findSome?_cons, hfg x y hxy, ih]
    cases f x <;> rfl

/-- A literal digit is not found where there is no digit. -/
theorem cut?_literal_of_neg {u : CodeUnit} (hu : u.isDigit = true) {t : Text}
    (ht : Text.leadingDigits t = 0) : cut? (.literal u :: pieces) t = none := by
  cases t with
  | nil => rfl
  | cons v rest =>
    have hv : v.isDigit = false := Text.leadingDigits_eq_zero_iff.mp ht v rfl
    have hne : u ≠ v := by
      rintro rfl
      rw [hu] at hv
      cases hv
    simp [cut?, hne]

section Step

variable (ih : ∀ {s s' : Text}, Exchanged pieces s s' →
  cut? pieces s' = (cut? pieces s).map exchange)
include ih

theorem cut?_literal {u : CodeUnit} (h : Exchanged (.literal u :: pieces) s s') :
    cut? (.literal u :: pieces) s' = (cut? (.literal u :: pieces) s).map exchange := by
  have hstep {v : CodeUnit} {t t' : Text} (hrest : u = v → Exchanged pieces t t') :
      cut? (.literal u :: pieces) (v :: t') =
        (cut? (.literal u :: pieces) (v :: t)).map exchange := by
    simp only [cut?]
    split
    · next heq => exact ih (hrest heq)
    · rfl
  cases hu : u.isDigit with
  | true =>
    rcases (h.of_digits hu).heads with ⟨v, t, t', -, rfl, rfl, hrest⟩ | ⟨hs, hs'⟩
    · exact hstep fun _ => hrest
    · rw [cut?_literal_of_neg hu hs, cut?_literal_of_neg hu hs']
      rfl
  | false =>
    cases h with
    | digits hpiece =>
      rw [Piece.isDigits, hu] at hpiece
      cases hpiece
    | literal _ hrest => exact hstep fun _ => hrest
    | @digit v hv =>
      refine hstep fun heq => ?_
      rw [heq, hv] at hu
      cases hu

theorem cut?_number (hd : d.style.isWord = false) (h : Exchanged (.directive d :: pieces) s s') :
    cut? (.directive d :: pieces) s' = (cut? (.directive d :: pieces) s).map exchange := by
  have hcandidates := (h.of_digits (by rw [Piece.isDigits, hd]; rfl)).candidates hd
  unfold cut?
  refine findSome?_of_forall₂ ?_ hcandidates
  rintro ⟨taken, rest⟩ ⟨taken', rest'⟩ ⟨rfl, hrest⟩
  dsimp only
  rw [ih hrest]
  cases cut? pieces rest with
  | none => rfl
  | some others => simp [exchange, Directive.otherHalf_of_number hd]

theorem cut?_word {words : List Text} (hstyle : d.style = .word words)
    (h : Exchanged (.directive d :: pieces) s s') :
    cut? (.directive d :: pieces) s' = (cut? (.directive d :: pieces) s).map exchange := by
  cases h with
  | digits hpiece =>
    rw [Piece.isDigits, hstyle] at hpiece
    cases hpiece
  | digit hu =>
    simp only [cut?, Directive.candidates_of_digit hstyle hu]
    rfl
  | @word _ words' hstyle' n hn _ t t' hrest =>
    obtain rfl := Style.word.inj (hstyle.symm.trans hstyle')
    obtain ⟨m, hm, hother⟩ := Directive.exists_otherHalf hstyle n hn
    simp only [cut?, hother, Directive.candidates_of_word hstyle hn,
      Directive.candidates_of_word hstyle hm, List.findSome?_singleton, ih hrest]
    cases cut? pieces t with
    | none => rfl
    | some others => simp only [Option.map_some, exchange, List.map_cons, hother]

end Step

/-- The search finds the same cut in both texts, but for the words that were exchanged. -/
theorem cut?_eq (h : Exchanged pieces s s') : cut? pieces s' = (cut? pieces s).map exchange := by
  induction pieces generalizing s s' with
  | nil =>
    have hempty : s.isEmpty = s'.isEmpty := by cases h <;> rfl
    simp only [cut?, hempty]
    split <;> rfl
  | cons piece pieces ih =>
    cases piece with
    | literal u => exact cut?_literal ih h
    | directive d =>
      cases hstyle : d.style with
      | word words => exact cut?_word ih hstyle h
      | padded | bare => exact cut?_number ih (by rw [hstyle]; rfl) h

end Exchanged

/-- A text that is cut can be exchanged. -/
theorem Cut.exists_exchanged {pieces : List Piece} {t : Text} {texts : List (Directive × Text)}
    (h : Cut pieces t texts) : ∃ t', Exchanged pieces t t' := by
  induction h with
  | nil => exact ⟨[], .nil⟩
  | @literal u pieces t texts hrest ih =>
    obtain ⟨t', ht'⟩ := ih
    cases hu : u.isDigit with
    | true =>
      have hpiece : (Piece.literal u).isDigits = true := hu
      exact ⟨u :: t', .digits hpiece (.digit hu ht')⟩
    | false => exact ⟨u :: t', .literal hu ht'⟩
  | @directive d n hn pieces t texts hrest ih =>
    obtain ⟨t', ht'⟩ := ih
    cases hstyle : d.style with
    | word words =>
      rw [hstyle] at hn
      exact ⟨_, .word hstyle hn ht'⟩
    | padded | bare =>
      have hd : d.style.isWord = false := by rw [hstyle]; rfl
      rw [← hstyle]
      exact ⟨d.style.write n ++ t', .digits (by rw [Piece.isDigits, hd]; rfl)
        (ht'.append_digits fun u hu => Directive.isDigit_write hd hu)⟩

end Calendar

end FieldValidation
