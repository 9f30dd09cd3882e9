import FieldValidation.Proofs.Settings.QuotedLines

/-!
# Comments after the value of a setting line

A comment after a value is left out where the value stands without quotes. Whether a value is in
quotes is told by the first and the last unit of all that follows the equals sign, and a comment
behind the closing quote is a part of that. So such a value is not taken for a quoted one: it is cut
at its first comment sign, be it inside the quotes, and keeps the opening quote.

## Main definitions

* `Setting.IsBare`: a value that stands without quotes
* `Setting.IsValue`: the values that a comment is written after
* `Setting.withComment`: a value with a comment after it

## Main results

* `Setting.ofLine?_withComment_iff`: a comment leaves a line what it is just where the value is bare
-/

namespace FieldValidation

namespace Setting

/-- A text without quotes. -/
def IsUnquoted (t : Text) : Prop := ∀ u ∈ t, ¬ IsQuote u

/-- A value as it stands without quotes. -/
structure IsBare (value : Text) : Prop where
  trimmed : Text.trim value = value
  unquoted : IsUnquoted value
  mark_not_mem : unit '#' ∉ value

/-- A value as it is written in a line, in quotes of one kind or without quotes. -/
inductive IsValue : Text → Prop
  | bare {value : Text} (h : IsBare value) : IsValue value
  | quoted {q : CodeUnit} {inner : Text} (hq : IsQuote q) (hinner : IsUnquoted inner) :
      IsValue (quoted q inner)

/-- A value with a comment after it. -/
def withComment (value comment : Text) : Text := value ++ unit ' ' :: unit '#' :: comment

instance (u : CodeUnit) : Decidable (IsQuote u) :=
  inferInstanceAs (Decidable (u = unit '"' ∨ u = unit '\''))

instance (t : Text) : Decidable (IsUnquoted t) := List.decidableBAll _ t

instance (value : Text) : Decidable (IsBare value) :=
  decidable_of_iff (Text.trim value = value ∧ IsUnquoted value ∧ unit '#' ∉ value)
    ⟨fun ⟨htrimmed, hunquoted, hmark⟩ => ⟨htrimmed, hunquoted, hmark⟩,
      fun h => ⟨h.trimmed, h.unquoted, h.mark_not_mem⟩⟩

variable {key value comment before after inner t : Text} {q : CodeUnit}

/-! ## What is in quotes -/

/-- A text that does not begin with a quote is not in quotes. -/
theorem unquote?_of_head (h : ∀ u ∈ t.head?, ¬ IsQuote u) : unquote? t = none := by
  cases t with
  | nil => rfl
  | cons u rest =>
    have hu : ¬ (u = unit '"' ∨ u = unit '\'') := h u rfl
    unfold unquote?
    cases hlast : rest.getLast? with
    | none => simp [hlast]
    | some last => simp [hlast, hu]

/-- Nor is one that does not end with a quote. -/
theorem unquote?_of_getLast (h : ∀ u ∈ t.getLast?, ¬ IsQuote u) : unquote? t = none := by
  cases t with
  | nil => rfl
  | cons u rest =>
    unfold unquote?
    cases hlast : rest.getLast? with
    | none => simp [hlast]
    | some last =>
      have hwhole : last ∈ (u :: rest).getLast? := by
        rw [List.getLast?_cons, hlast]
        rfl
      have hu : ¬ (u = last ∧ (u = unit '"' ∨ u = unit '\'')) := by
        rintro ⟨rfl, hquote⟩
        exact h u hwhole hquote
      simp [hlast, hu]

theorem not_isQuote_of_isBlank {u : CodeUnit} (h : u.isBlank = true) : ¬ IsQuote u := by
  rintro (rfl | rfl) <;> revert h <;> decide

theorem IsQuote.unblank (h : IsQuote q) : q.isBlank = false := by
  rw [← Bool.not_eq_true]
  exact fun hblank => not_isQuote_of_isBlank hblank h

/-! ## What a comment is taken off -/

theorem dropComment_append (h : unit '#' ∉ value) (comment : Text) :
    dropComment (value ++ unit '#' :: comment) = Text.trim value := by
  rw [dropComment, Text.splitFirst?_append h]

theorem dropComment_of_not_mem (h : unit '#' ∉ value) : dropComment value = value := by
  rw [dropComment, Text.splitFirst?_of_not_mem h]

/-- Of two comment signs the first one counts. -/
theorem dropComment_withComment {gap : Text} (hvalue : Text.trim value = value)
    (hgap : gap.IsBlank) (comment : Text) :
    dropComment ((value ++ gap) ++ unit '#' :: comment) = dropComment value := by
  by_cases hmark : unit '#' ∈ value
  · obtain ⟨first, others, rfl, hfirst⟩ := List.eq_append_cons_of_mem hmark
    rw [dropComment_append hfirst, List.append_assoc, List.append_assoc, List.cons_append,
      dropComment_append hfirst]
  · have hbefore : unit '#' ∉ value ++ gap := by
      rw [List.mem_append, not_or]
      exact ⟨hmark, fun hmem => absurd (hgap _ hmem) (by decide)⟩
    have hnil : Text.IsBlank [] := nofun
    rw [dropComment_append hbefore, dropComment_of_not_mem hmark]
    exact Text.trim_around hnil hvalue hgap

/-- A comment does not reach what is cut off a text in quotes, the opening quote being the first
unit. -/
theorem head?_dropComment_quoted (hq : IsQuote q) (inner : Text) :
    (dropComment (quoted q inner)).head? = some q := by
  by_cases hmark : unit '#' ∈ quoted q inner
  · obtain ⟨first, others, hparts, hfirst⟩ := List.eq_append_cons_of_mem hmark
    rw [hparts, dropComment_append hfirst]
    cases first with
    | nil =>
      obtain rfl : q = unit '#' := (List.cons.inj hparts).1
      exact absurd hq (by decide)
    | cons u rest =>
      obtain rfl : q = u := (List.cons.inj hparts).1
      have hnil : Text.IsBlank [] := nofun
      exact congrArg List.head? (Text.trim_append_cons hnil hq.unblank rest)
  · rw [dropComment_of_not_mem hmark]
    rfl

/-! ## What is read of a value -/

/-- What is read of all that stands after the equals sign. -/
def valueOf (rest : Text) : Text :=
  (unquote? (Text.trim rest)).getD (dropComment (Text.trim rest))

theorem valueOf_bare (h : IsBare value) : valueOf value = value := by
  have hhead : ∀ u ∈ value.head?, ¬ IsQuote u := fun u hu =>
    h.unquoted u (List.mem_of_mem_head? hu)
  rw [valueOf, h.trimmed, unquote?_of_head hhead, Option.getD_none,
    dropComment_of_not_mem h.mark_not_mem]

theorem valueOf_quoted (hq : IsQuote q) (inner : Text) : valueOf (quoted q inner) = inner := by
  rw [valueOf, trim_quoted hq, unquote?_quoted hq, Option.getD_some]

theorem IsValue.trimmed (h : IsValue value) : Text.trim value = value := by
  cases h with
  | bare h => exact h.trimmed
  | quoted hq _ => exact trim_quoted hq _

/-- The blanks at the end of a line belong to the comment. -/
theorem exists_trim_withComment (h : Text.trim value = value) (comment : Text) :
    ∃ gap, Text.IsBlank gap ∧ Text.trim (withComment value comment) =
      (value ++ gap) ++ unit '#' :: Text.trimEnd comment := by
  have hmark : (unit '#').isBlank = false := by decide
  have hspace : Text.IsBlank [unit ' '] := by decide
  have hnil : Text.IsBlank [] := nofun
  cases value with
  | nil => exact ⟨[], hnil, Text.trim_append_cons hspace hmark comment⟩
  | cons u rest =>
    have hu : u.isBlank = false := (Text.trim_eq_self_iff.mp h).1 u rfl
    have hparts : withComment (u :: rest) comment =
        [] ++ u :: ((rest ++ [unit ' ']) ++ unit '#' :: comment) := by simp [withComment]
    refine ⟨[unit ' '], hspace, ?_⟩
    rw [hparts, Text.trim_append_cons hnil hu, Text.trimEnd_append_cons hmark]
    rfl

/-- With a comment after it a value is never taken for one in quotes: a bare one does not begin with
a quote, and after a quoted one the line does not end with one. -/
theorem unquote?_withComment {gap : Text} (hvalue : IsValue value) (hgap : gap.IsBlank)
    (hcomment : IsUnquoted comment) :
    unquote? ((value ++ gap) ++ unit '#' :: comment) = none := by
  have hmark : ¬ IsQuote (unit '#') := by decide
  cases hvalue with
  | bare h =>
    have hbefore : IsUnquoted (value ++ gap) := by
      intro u hu
      rcases List.mem_append.mp hu with hu | hu
      · exact h.unquoted u hu
      · exact not_isQuote_of_isBlank (hgap u hu)
    apply unquote?_of_head
    intro u hu
    rw [List.head?_append, Option.mem_def, Option.or_eq_some_iff] at hu
    rcases hu with hu | ⟨-, hu⟩
    · exact hbefore u (List.mem_of_mem_head? hu)
    · rwa [← Option.some.inj hu]
  | quoted hq hinner =>
    apply unquote?_of_getLast
    intro u hu
    rw [List.getLast?_append_of_ne_nil _ (by simp)] at hu
    rcases List.mem_cons.mp (List.mem_of_getLast? hu) with rfl | hu
    · exact hmark
    · exact hcomment u hu

/-- A value with a comment after it is cut at the first comment sign. -/
theorem valueOf_withComment (hvalue : IsValue value) (hcomment : IsUnquoted comment) :
    valueOf (withComment value comment) = dropComment value := by
  obtain ⟨gap, hgap, htrim⟩ := exists_trim_withComment hvalue.trimmed comment
  have hcomment' : IsUnquoted (Text.trimEnd comment) := fun u hu =>
    hcomment u ((List.rdropWhile_prefix CodeUnit.isBlank comment).subset hu)
  rw [valueOf, htrim, unquote?_withComment hvalue hgap hcomment', Option.getD_none,
    dropComment_withComment hvalue.trimmed hgap]

/-- A comment leaves a value what it is just where that is bare. -/
theorem dropComment_eq_valueOf_iff (h : IsValue value) :
    dropComment value = valueOf value ↔ IsBare value := by
  constructor
  · intro heq
    cases h with
    | bare h => exact h
    | @quoted q inner hq hinner =>
      have hhead := head?_dropComment_quoted hq inner
      rw [heq, valueOf_quoted hq] at hhead
      exact absurd hq (hinner q (List.mem_of_mem_head? hhead))
  · intro h
    rw [valueOf_bare h, dropComment_of_not_mem h.mark_not_mem]

/-- A line with a comment after its value is read as the key with what stands before the first
comment sign. A bare value is read so without the comment too, and a value in quotes is read as what
stands between them; so the comment makes no difference just where the value is bare. -/
theorem ofLine?_withComment_iff (hkey : IsKey key) (hbefore : before.IsBlank)
    (hafter : after.IsBlank) (hvalue : IsValue value) (hcomment : IsUnquoted comment) :
    let plain := ofLine? (before ++ (key ++ (after ++ unit '=' :: value)))
    let commented := ofLine? (before ++ (key ++ (after ++ unit '=' :: withComment value comment)))
    (commented = plain ↔ IsBare value) ∧ commented = some (key, dropComment value) ∧
      (IsBare value → plain = some (key, value)) ∧
      ∀ q inner, IsQuote q → value = quoted q inner → plain = some (key, inner) := by
  intro plain commented
  have hplain : plain = some (key, valueOf value) := ofLine?_entry hkey hbefore hafter value
  have hcommented : commented = some (key, dropComment value) := by
    rw [← valueOf_withComment hvalue hcomment]
    exact ofLine?_entry hkey hbefore hafter _
  refine ⟨?iff, hcommented, ?bare, ?quoted⟩
  case iff =>
    rw [hplain, hcommented, Option.some_inj, Prod.mk.injEq, and_iff_right rfl]
    exact dropComment_eq_valueOf_iff hvalue
  case bare =>
    intro h
    rw [hplain, valueOf_bare h]
  case quoted =>
    rintro q inner hq rfl
    rw [hplain, valueOf_quoted hq]

/-- A comment with another comment sign in it after a bare value with an equals sign, and a comment
after a value in quotes, which keeps the quotes. -/
theorem ofLine?_withComment_iff_color :
    IsBare "a=b" ∧
      ofLine? " COLOR =a=b # red # or blue" = some (Text.ofString "COLOR", Text.ofString "a=b") ∧
      ofLine? "COLOR='red' # or blue" = some (Text.ofString "COLOR", Text.ofString "'red'") := by
  have hkey : IsKey "COLOR" := by decide
  have hspace : Text.IsBlank " " := by decide
  have hnil : Text.IsBlank [] := nofun
  have hbare : IsBare "a=b" := by decide
  have hquoted : IsValue (quoted (unit '\'') "red") := .quoted (.inr rfl) (by decide)
  have hcomment : IsUnquoted " red # or blue" := by decide
  have hcomment' : IsUnquoted " or blue" := by decide
  obtain ⟨hiff, -, hplain, -⟩ :=
    ofLine?_withComment_iff hkey hspace hspace (.bare hbare) hcomment
  obtain ⟨-, hcommented, -⟩ := ofLine?_withComment_iff hkey hnil hnil hquoted hcomment'
  exact ⟨hbare, (hiff.mpr hbare).trans (hplain hbare), hcommented⟩

/-- A comment sign in quotes ends the value where a comment follows the quotes. -/
theorem not_ofLine?_withComment :
    ¬ ∀ key value comment : Text, IsKey key → IsValue value → IsUnquoted comment →
      ofLine? (key ++ unit '=' :: withComment value comment) =
        ofLine? (key ++ unit '=' :: value) := by
  intro h
  have hvalue : IsValue (quoted (unit '"') "a # b") := .quoted (.inl rfl) (by decide)
  have hline := h "K" _ " c" (by decide) hvalue (by decide)
  revert hline
  decide

end Setting

end FieldValidation
