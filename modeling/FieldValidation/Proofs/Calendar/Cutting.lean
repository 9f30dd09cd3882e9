import FieldValidation.Proofs.Calendar.Rendering

/-!
# Cutting a text by a format

A cut of a text divides it among the pieces of a format, with a text of its own for each directive.
The search finds a cut where there is one. Where digits of open number are followed by digits of a
known number only, there is but one cut: as far as what comes before is cut alike, the run of digits
ends where the text says.

## Main definitions

* `Cut`: the cuts of a text by the pieces of a format
* `runWidth?`: how many digits the pieces of a format begin with, where that is known
* `Separated`: no digits of open number stand in one run

## Main results

* `cut_of_cut?`, `exists_cut?`: the search finds a cut, if there is one
* `Cut.of_render`, `Cut.text_eq`: what is rendered is cut into what the directives write
* `Cut.unique`: the cut by separated pieces
-/

namespace FieldValidation

namespace Calendar

/-- The cuts of a text by the pieces of a format, each with the texts of the directives. -/
inductive Cut : List Piece → Text → List (Directive × Text) → Prop
  | nil : Cut [] [] []
  | literal (u : CodeUnit) {pieces : List Piece} {t : Text} {texts : List (Directive × Text)}
      (hrest : Cut pieces t texts) : Cut (.literal u :: pieces) (u :: t) texts
  | directive (d : Directive) {n : Nat} (hn : d.style.Has n) {pieces : List Piece} {t : Text}
      {texts : List (Directive × Text)} (hrest : Cut pieces t texts) :
      Cut (.directive d :: pieces) (d.style.write n ++ t) ((d, d.style.write n) :: texts)

variable {pieces : List Piece} {t : Text} {texts : List (Directive × Text)}

/-! ## The search for a cut -/

/-- What the search finds is a cut. -/
theorem cut_of_cut? (h : cut? pieces t = some texts) : Cut pieces t texts := by
  induction pieces generalizing t texts with
  | nil =>
    unfold cut? at h
    cases t with
    | nil => cases h; exact .nil
    | cons u rest => cases h
  | cons piece pieces ih =>
    cases piece with
    | literal u =>
      unfold cut? at h
      cases t with
      | nil => cases h
      | cons v rest =>
        simp only [Option.ite_none_right_eq_some] at h
        obtain ⟨rfl, hrest⟩ := h
        exact .literal u (ih hrest)
    | directive d =>
      unfold cut? at h
      obtain ⟨⟨taken, rest⟩, hmem, hcut⟩ := List.exists_of_findSome?_eq_some h
      obtain ⟨others, hothers, rfl⟩ := Option.map_eq_some_iff.mp hcut
      obtain ⟨n, hn, rfl, rfl⟩ := Directive.mem_candidates.mp hmem
      exact .directive d hn (ih hothers)

/-- Where there is a cut, the search finds one. It may take an earlier candidate than the cut, but
it has that of the cut to fall back on. -/
theorem Cut.exists_cut? (h : Cut pieces t texts) : ∃ texts', cut? pieces t = some texts' := by
  induction h with
  | nil => exact ⟨[], rfl⟩
  | literal u hrest ih =>
    obtain ⟨texts', htexts⟩ := ih
    exact ⟨texts', by rw [cut?, if_pos rfl, htexts]⟩
  | @directive d n hn pieces t texts hrest ih =>
    obtain ⟨others, hothers⟩ := ih
    unfold cut?
    apply Option.isSome_iff_exists.mp
    rw [List.findSome?_isSome_iff]
    refine ⟨(d.style.write n, t), Directive.mem_candidates.mpr ⟨n, hn, rfl, rfl⟩, ?_⟩
    simp only [hothers]
    rfl

/-! ## What is rendered is a cut -/

/-- The texts of a cut belong to the directives of the format, in order. -/
theorem Cut.map_fst (h : Cut pieces t texts) :
    texts.map Prod.fst = pieces.filterMap Piece.directive? := by
  induction h with
  | nil => rfl
  | literal u hrest ih => exact ih
  | directive d hn hrest ih => exact congrArg (d :: ·) ih

/-- A text that is cut into what the directives write is the format rendered. -/
theorem Cut.text_eq {print : Directive → Text} (h : Cut pieces t texts)
    (hprint : ∀ entry ∈ texts, entry.2 = print entry.1) :
    t = pieces.flatMap (Piece.text print) := by
  induction h with
  | nil => rfl
  | literal u hrest ih => exact congrArg (u :: ·) (ih hprint)
  | directive d hn hrest ih =>
    obtain ⟨hfirst, hothers⟩ := List.forall_mem_cons.mp hprint
    rw [List.flatMap_cons, ← ih hothers]
    exact congrArg (· ++ _) hfirst

/-- The format rendered is cut into what the directives write. -/
theorem Cut.of_prints {print : Directive → Text}
    (h : ∀ d ∈ pieces.filterMap Piece.directive?, ∃ n, d.style.Has n ∧ print d = d.style.write n) :
    Cut pieces (pieces.flatMap (Piece.text print))
      ((pieces.filterMap Piece.directive?).map fun d => (d, print d)) := by
  induction pieces with
  | nil => exact .nil
  | cons piece pieces ih =>
    cases piece with
    | literal u => exact .literal u (ih h)
    | directive d =>
      obtain ⟨⟨n, hn, hd⟩, hothers⟩ := List.forall_mem_cons.mp h
      have hcut := Cut.directive d hn (ih hothers)
      rwa [← hd] at hcut

/-- The same of a format as it is written. -/
theorem Cut.of_render {format : Text} {print : Directive → Text}
    (h : ∀ d ∈ directives format, ∃ n, d.style.Has n ∧ print d = d.style.write n) :
    Cut (piecesOf format) (render print format)
      ((directives format).map fun d => (d, print d)) := by
  rw [← Piece.filterMap_directive?] at h
  rw [← Piece.flatMap_text, ← Piece.filterMap_directive?]
  exact Cut.of_prints h

/-! ## How many digits a cut text begins with -/

/-- How many digits the text of the pieces begins with, where that is the same for every text. -/
def runWidth? : List Piece → Option Nat
  | [] => some 0
  | .literal u :: pieces => if u.isDigit then (runWidth? pieces).map (1 + ·) else some 0
  | .directive d :: pieces =>
    match d.style with
    | .padded width => (runWidth? pieces).map (width + ·)
    | .bare _ => none
    | .word _ => some 0

/-- Digits of open number are followed, up to the next piece without digits, by digits of a known
number only. -/
def Separated : List Piece → Prop
  | [] => True
  | .literal _ :: pieces => Separated pieces
  | .directive d :: pieces =>
    (d.style.isBare = true → (runWidth? pieces).isSome = true) ∧ Separated pieces

/-- Whether pieces are separated is decided piece by piece. -/
def Separated.decide : (pieces : List Piece) → Decidable (Separated pieces)
  | [] => isTrue trivial
  | .literal _ :: pieces => Separated.decide pieces
  | .directive _ :: pieces =>
    have := Separated.decide pieces
    inferInstanceAs (Decidable ((_ = true → _ = true) ∧ Separated pieces))

instance (pieces : List Piece) : Decidable (Separated pieces) := Separated.decide pieces

/-- Words begin with something else than a digit. -/
theorem Directive.leadingDigits_word {d : Directive} {words : List Text}
    (hstyle : d.style = .word words) {n : Nat} (h : n < words.length) (t : Text) :
    Text.leadingDigits (words.getD n [] ++ t) = 0 := by
  have hhead : ∀ n < words.length, (words.getD n []).head?.any (!·.isDigit) = true := by
    cases d <;> cases hstyle <;> decide
  have hn := hhead n h
  generalize words.getD n [] = word at hn
  cases word with
  | nil => cases hn
  | cons u rest => exact Text.leadingDigits_cons_of_neg (by simpa using hn) _

/-- The digits that a text begins with are as many as is known of the pieces it is cut by: their run
goes on with every piece made of digits, and ends with any other. -/
theorem Cut.leadingDigits_eq (h : Cut pieces t texts) {width : Nat}
    (hwidth : runWidth? pieces = some width) : Text.leadingDigits t = width := by
  induction h generalizing width with
  | nil => exact Option.some.inj hwidth
  | @literal u pieces t texts hrest ih =>
    unfold runWidth? at hwidth
    cases hu : u.isDigit with
    | true =>
      rw [hu, if_pos rfl] at hwidth
      obtain ⟨others, hothers, rfl⟩ := Option.map_eq_some_iff.mp hwidth
      have hdigits : ∀ v ∈ [u], v.isDigit = true := by simpa using hu
      rw [← ih hothers]
      exact Text.leadingDigits_append hdigits t
    | false =>
      rw [hu] at hwidth
      rw [Text.leadingDigits_cons_of_neg hu]
      exact Option.some.inj hwidth
  | @directive d n hn pieces t texts hrest ih =>
    unfold runWidth? at hwidth
    cases hstyle : d.style with
    | padded digits =>
      rw [hstyle] at hwidth
      obtain ⟨others, hothers, rfl⟩ := Option.map_eq_some_iff.mp hwidth
      rw [← ih hothers, Style.write,
        Text.leadingDigits_append fun u hu => Text.isDigit_lastDigits hu, Text.length_lastDigits]
    | bare first => rw [hstyle] at hwidth; cases hwidth
    | word words =>
      rw [hstyle] at hwidth hn
      exact (Directive.leadingDigits_word hstyle hn t).trans (Option.some.inj hwidth)

/-! ## The only cut -/

/-- No word is the beginning of another. -/
theorem Directive.eq_of_word_begins {d : Directive} {words : List Text}
    (hstyle : d.style = .word words) : ∀ n < words.length, ∀ m < words.length,
      words.getD n [] <+: words.getD m [] → n = m := by
  cases d <;> cases hstyle <;> decide

/-- A directive takes the same from a text in any way that leaves as many digits. -/
theorem Directive.write_append_inj {d : Directive} {n n' : Nat} (hn : d.style.Has n)
    (hn' : d.style.Has n') {t t' : Text} (heq : d.style.write n ++ t = d.style.write n' ++ t')
    (hbare : d.style.isBare = true → Text.leadingDigits t = Text.leadingDigits t') :
    d.style.write n = d.style.write n' ∧ t = t' := by
  cases hstyle : d.style with
  | padded width =>
    rw [hstyle] at heq
    exact List.append_inj heq (by simp [Style.write])
  | bare first =>
    rw [hstyle] at heq hn hn'
    have hlength := congrArg Text.leadingDigits heq
    rw [Style.write, Style.write, Text.leadingDigits_append fun _ => Text.isDigit_ofNat,
      Text.leadingDigits_append fun _ => Text.isDigit_ofNat, hbare (by rw [hstyle]; rfl)] at hlength
    exact List.append_inj heq (Nat.add_right_cancel hlength)
  | word words =>
    rw [hstyle] at heq hn hn'
    obtain rfl : n = n' := by
      rcases List.prefix_or_prefix_of_prefix (List.prefix_append _ t)
        (heq ▸ List.prefix_append _ t') with h | h
      · exact Directive.eq_of_word_begins hstyle n hn n' hn' h
      · exact (Directive.eq_of_word_begins hstyle n' hn' n hn h).symm
    exact ⟨rfl, List.append_cancel_left heq⟩

/-- There is one cut by separated pieces, since what follows a directive of open width begins with a
known number of digits. -/
theorem Cut.unique (h : Cut pieces t texts) {texts' : List (Directive × Text)}
    (h' : Cut pieces t texts') (hseparated : Separated pieces) : texts = texts' := by
  induction h generalizing texts' with
  | nil => cases h'; rfl
  | literal u hrest ih =>
    cases h' with
    | literal _ hrest' => exact ih hrest' hseparated
  | @directive d n hn pieces t texts hrest ih =>
    generalize hwhole : d.style.write n ++ t = whole at h'
    cases h' with
    | @directive _ n' hn' _ t' texts' hrest' =>
      obtain ⟨hdigits, hseparated⟩ := hseparated
      have hsame : d.style.write n = d.style.write n' ∧ t = t' := by
        apply Directive.write_append_inj hn hn' hwhole
        intro hbare
        obtain ⟨width, hwidth⟩ := Option.isSome_iff_exists.mp (hdigits hbare)
        rw [hrest.leadingDigits_eq hwidth, hrest'.leadingDigits_eq hwidth]
      obtain ⟨hwrite, rfl⟩ := hsame
      rw [hwrite, ih hrest' hseparated]

end Calendar

end FieldValidation
