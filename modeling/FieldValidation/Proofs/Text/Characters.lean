import FieldValidation.Proofs.Text.CodePoints

/-!
# Counting characters

A character of a text is a surrogate pair or any other unit. No unit is in two pairs, since the
first half of a pair is not the second half of another. So there is one character less than there
are units for each pair, and a text of two parts has the characters of both, but for a pair that
they meet in.

## Main definitions

* `Text.pairCount`: the number of surrogate pairs
* `Text.characterCount`: the number of characters
* `Text.MeetInPair`: a surrogate pair between two texts

## Main results

* `Text.length_codePoints`: the code points of a text are as many as its characters
* `Text.characterCount_append`: the characters of two texts one after the other
-/

namespace FieldValidation

namespace Text

variable {s t : Text} {u v : CodeUnit}

/-- Whether two units are a surrogate pair. -/
def isSurrogatePair (units : CodeUnit × CodeUnit) : Bool :=
  units.1.isHighSurrogate && units.2.isLowSurrogate

/-- The number of surrogate pairs in a text. -/
def pairCount (t : Text) : Nat := (t.zip t.tail).countP isSurrogatePair

/-- The number of characters in a text: each surrogate pair counts once, and so does each other
unit. -/
def characterCount (t : Text) : Nat := t.length - pairCount t

/-- One text ends with the first half of a surrogate pair, and the other one begins with the second
half. -/
def MeetInPair (s t : Text) : Prop :=
  ∃ u v, s.getLast? = some u ∧ t.head? = some v ∧ u.isHighSurrogate = true ∧
    v.isLowSurrogate = true

/-! ## Pairs -/

theorem pairCount_cons_cons (u v : CodeUnit) (rest : Text) :
    pairCount (u :: v :: rest) = pairCount (v :: rest) + if isSurrogatePair (u, v) then 1 else 0 :=
  List.countP_cons

/-- The second half of a pair is not the first half of another. -/
theorem isSurrogatePair_eq_false (h : isSurrogatePair (u, v) = true) (w : CodeUnit) :
    isSurrogatePair (v, w) = false := by
  have hlow := v.isLowSurrogate_iff.mp (Bool.and_eq_true_iff.mp h).2
  have hhigh : v.isHighSurrogate = false := by
    rw [← Bool.not_eq_true, v.isHighSurrogate_iff]
    omega
  rw [isSurrogatePair, hhigh, Bool.false_and]

theorem pairCount_of_pair (h : isSurrogatePair (u, v) = true) (rest : Text) :
    pairCount (v :: rest) = pairCount rest := by
  cases rest with
  | nil => rfl
  | cons w rest =>
    rw [pairCount_cons_cons, isSurrogatePair_eq_false h w]
    rfl

/-- There are as many units as there are code points and surrogate pairs. -/
theorem length_codePoints_add_pairCount (t : Text) :
    (codePoints t).length + pairCount t = t.length := by
  fun_induction codePoints t with
  | case1 => rfl
  | case2 u => rfl
  | case3 u v rest hpair ih =>
    have hpair : isSurrogatePair (u, v) = true := hpair
    rw [pairCount_cons_cons, if_pos hpair, pairCount_of_pair hpair]
    simp only [List.length_cons]
    omega
  | case4 u v rest hpair ih =>
    have hpair : ¬ isSurrogatePair (u, v) = true := hpair
    rw [pairCount_cons_cons, if_neg hpair]
    simp only [List.length_cons] at ih ⊢
    omega

theorem characterCount_add_pairCount (t : Text) : characterCount t + pairCount t = t.length := by
  have hlength := length_codePoints_add_pairCount t
  unfold characterCount
  omega

/-- The code points of a text are as many as its characters. -/
theorem length_codePoints (t : Text) : (codePoints t).length = characterCount t := by
  have hpoints := length_codePoints_add_pairCount t
  have hcharacters := characterCount_add_pairCount t
  omega

/-! ## Texts one after the other -/

theorem meetInPair_singleton_iff {rest : Text} :
    MeetInPair [u] (v :: rest) ↔ isSurrogatePair (u, v) = true := by
  simp [MeetInPair, isSurrogatePair]

theorem meetInPair_cons_cons_iff {rest : Text} :
    MeetInPair (u :: v :: rest) t ↔ MeetInPair (v :: rest) t := by
  simp [MeetInPair]

open Classical in
/-- The pairs of two texts one after the other are those of both, and the one they meet in. -/
theorem pairCount_append (s t : Text) :
    pairCount (s ++ t) = pairCount s + pairCount t + if MeetInPair s t then 1 else 0 := by
  match s, t with
  | [], t => simp [pairCount, MeetInPair]
  | s, [] => simp [pairCount, MeetInPair]
  | [u], v :: rest =>
    rw [List.singleton_append, pairCount_cons_cons]
    simp only [meetInPair_singleton_iff]
    simp [pairCount]
  | u :: v :: rest, w :: t =>
    have ih := pairCount_append (v :: rest) (w :: t)
    simp only [List.cons_append, pairCount_cons_cons, meetInPair_cons_cons_iff] at ih ⊢
    omega

/-- The characters of two texts one after the other are those of both, but for two halves that
become one character. -/
theorem characterCount_append (s t : Text) :
    (¬ MeetInPair s t → characterCount (s ++ t) = characterCount s + characterCount t) ∧
    (MeetInPair s t → characterCount (s ++ t) + 1 = characterCount s + characterCount t) := by
  have hpairs := pairCount_append s t
  have hboth := characterCount_add_pairCount (s ++ t)
  have hs := characterCount_add_pairCount s
  have ht := characterCount_add_pairCount t
  rw [List.length_append] at hboth
  constructor
  · intro h
    rw [if_neg h] at hpairs
    omega
  · intro h
    rw [if_pos h] at hpairs
    omega

end Text

end FieldValidation
