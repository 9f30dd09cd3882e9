import FieldValidation.Proofs.Regex.CharacterSets
import FieldValidation.Proofs.Regex.Search
import FieldValidation.Text.Blank

/-!
# Expressions on code units

A pattern without flags is matched unit by unit. What its parts take are then pieces of the text
itself, and if the pattern begins with the anchor for the start and ends with the one for the end,
it finds a text just where the parts between them take the whole of it.

## Main definitions

* `Regex.Flags.none`: no flags
* `Regex.Node.inTurn`: expressions one after the other
* `Regex.Spans`: what an expression takes of a text

## Main results

* `Regex.finds_iff_spans`: a pattern between anchors
* `Regex.spans_cons_iff`, `Regex.spans_run_iff`, `Regex.spans_someRun_iff`: what its parts take
-/

namespace FieldValidation

namespace Regex

/-- No flags. -/
def Flags.none : Flags := ⟨false, false, false, false, false, false⟩

/-- Expressions one after the other, as they are read off a pattern. -/
def Node.inTurn : List Node → Node
  | [] => .empty
  | n :: ns => .sequence n (inTurn ns)

variable {s : Subject} {n a b body : Node} {ns ms : List Node}

/-! ## Anchors at both ends -/

section Anchors

variable {before x after : List Nat}

theorem takes_inTurn_append_iff :
    Takes s (.inTurn (ns ++ ms)) before x after ↔
      ∃ y z, x = y ++ z ∧ Takes s (.inTurn ns) before y (z ++ after) ∧
        Takes s (.inTurn ms) (before ++ y) z after := by
  induction ns generalizing before x with
  | nil =>
    constructor
    · intro h
      exact ⟨[], x, rfl, .empty, by rwa [List.append_nil]⟩
    · rintro ⟨y, z, rfl, hy, hz⟩
      obtain rfl := takes_empty_iff.mp hy
      rwa [List.append_nil] at hz
  | cons n ns ih =>
    constructor
    · intro h
      obtain ⟨y, z, rfl, hn, hrest⟩ := takes_sequence_iff.mp h
      obtain ⟨z, w, rfl, hns, hms⟩ := ih.mp hrest
      rw [List.append_assoc] at hn hms
      exact ⟨y ++ z, w, by rw [List.append_assoc], .sequence hn hns, hms⟩
    · rintro ⟨v, w, rfl, hv, hms⟩
      obtain ⟨y, z, rfl, hn, hns⟩ := takes_sequence_iff.mp hv
      rw [← List.append_assoc] at hn hms
      rw [List.append_assoc]
      exact .sequence hn (ih.mpr ⟨z, w, rfl, hns, hms⟩)

theorem isAt_start_iff (h : s.flags.multiline = false) {place : Nat} :
    s.isAt place .start = true ↔ place = 0 := by
  simp [Subject.isAt, h]

theorem isAt_finish_iff (h : s.flags.multiline = false) {place : Nat} :
    s.isAt place .finish = true ↔ place = s.characters.size := by
  simp [Subject.isAt, h]

end Anchors

/-! ## Classes of units -/

theorem has_blanks (u : CodeUnit) : blanks.has u.toNat = u.isBlank := by
  rw [Bool.eq_iff_iff]
  simp [blanks, CharacterSet.has, CodeUnit.isBlank, UInt16.le_iff_toNat_le, ← UInt16.toNat_inj]
  omega

theorem has_digits (u : CodeUnit) : digits.has u.toNat = u.isDigit := by
  simp [digits, CharacterSet.has, CodeUnit.isDigit, UInt16.le_iff_toNat_le, unit]

theorem has_single_iff {u v : CodeUnit} :
    (CharacterSet.single v.toNat).has u.toNat = true ↔ u = v := by
  rw [CharacterSet.single, CharacterSet.has_cons_iff, CharacterSet.has_nil, ← UInt16.toNat_inj]
  simp only [Bool.false_eq_true, or_false]
  omega

/-! ## Pieces of a text -/

/-- What an expression takes between two parts of a text. -/
def Spans (s : Subject) (n : Node) (before t after : Text) : Prop :=
  Takes s n (before.map UInt16.toNat) (t.map UInt16.toNat) (after.map UInt16.toNat)

/-- A pattern between the anchors for the start and the end finds the texts that it takes as a
whole. -/
theorem finds_iff_spans {regex : Regex} {t : Text}
    (hnode : regex.node = .inTurn (.anchor .start :: (ns ++ [.anchor .finish])))
    (hmultiline : regex.flags.multiline = false) (hunicode : regex.flags.unicode = false) :
    regex.Finds t ↔ Spans (regex.subject t) (.inTurn ns) [] t [] := by
  have hchars : charactersOf regex.flags.unicode t = t.map UInt16.toNat := by
    rw [hunicode]
    rfl
  have hsize : (regex.subject t).characters.size = (t.map UInt16.toNat).length := by
    rw [← hchars]
    exact List.size_toArray
  unfold Finds Spans
  rw [hchars, hnode]
  constructor
  · rintro ⟨before, x, after, hparts, -, htakes⟩
    obtain ⟨y, z, rfl, hstart, hrest⟩ := takes_sequence_iff.mp htakes
    obtain ⟨rfl, hbefore⟩ := takes_anchor_iff.mp hstart
    obtain rfl : before = [] := List.length_eq_zero_iff.mp ((isAt_start_iff hmultiline).mp hbefore)
    obtain ⟨v, w, rfl, hns, hfinish⟩ := takes_inTurn_append_iff.mp hrest
    obtain ⟨v', w', rfl, hanchor, hempty⟩ := takes_sequence_iff.mp hfinish
    obtain ⟨rfl, hend⟩ := takes_anchor_iff.mp hanchor
    obtain rfl := takes_empty_iff.mp hempty
    have hlength := (isAt_finish_iff hmultiline).mp hend
    rw [hsize, hparts] at hlength
    simp only [List.nil_append, List.append_nil, List.length_append] at hlength hns hparts ⊢
    obtain rfl : after = [] := List.length_eq_zero_iff.mp (by omega)
    rw [hparts, List.append_nil]
    exact hns
  · intro h
    refine ⟨[], t.map UInt16.toNat, [], by simp, fun _ => rfl, ?_⟩
    have hstart : (regex.subject t).isAt 0 .start = true := (isAt_start_iff hmultiline).mpr rfl
    have hend : (regex.subject t).isAt (t.map UInt16.toNat).length .finish = true :=
      (isAt_finish_iff hmultiline).mpr hsize.symm
    have hfinish : Takes (regex.subject t) (.inTurn [.anchor .finish]) (t.map UInt16.toNat) [] [] :=
      .sequence (.anchor hend) .empty
    refine .sequence (x := []) (.anchor hstart) (takes_inTurn_append_iff.mpr ?_)
    exact ⟨t.map UInt16.toNat, [], by simp, by simpa using h, by simpa using hfinish⟩

variable {set : CharacterSet} {before t after : Text} {greedy : Bool} {firstGroup endGroup : Nat}

theorem spans_nil_iff : Spans s (.inTurn []) before t after ↔ t = [] := by
  rw [Spans, Node.inTurn, takes_empty_iff, List.map_eq_nil_iff]

/-- The parts of the characters of a text are the characters of its parts. -/
theorem exists_map_append_iff {P : List Nat → List Nat → Prop} :
    (∃ x y, t.map UInt16.toNat = x ++ y ∧ P x y) ↔
      ∃ p q, t = p ++ q ∧ P (p.map UInt16.toNat) (q.map UInt16.toNat) := by
  constructor
  · rintro ⟨x, y, hparts, h⟩
    obtain ⟨p, q, rfl, rfl, rfl⟩ := List.map_eq_append_iff.mp hparts
    exact ⟨p, q, rfl, h⟩
  · rintro ⟨p, q, rfl, h⟩
    exact ⟨_, _, List.map_append, h⟩

theorem spans_cons_iff :
    Spans s (.inTurn (n :: ns)) before t after ↔
      ∃ p q, t = p ++ q ∧ Spans s n before p (q ++ after) ∧
        Spans s (.inTurn ns) (before ++ p) q after := by
  unfold Spans
  rw [Node.inTurn, takes_sequence_iff, exists_map_append_iff]
  simp only [List.map_append]

/-- Expressions of which some come before the others. -/
theorem spans_append_iff :
    Spans s (.inTurn (ns ++ ms)) before t after ↔
      ∃ p q, t = p ++ q ∧ Spans s (.inTurn ns) before p (q ++ after) ∧
        Spans s (.inTurn ms) (before ++ p) q after := by
  unfold Spans
  rw [takes_inTurn_append_iff, exists_map_append_iff]
  simp only [List.map_append]

theorem spans_characters_iff :
    Spans s (.characters set) before t after ↔ ∃ u, t = [u] ∧ set.has u.toNat = true := by
  rw [Spans, takes_characters_iff]
  constructor
  · rintro ⟨c, ht, hc⟩
    obtain ⟨u, rfl, rfl⟩ := List.map_eq_singleton_iff.mp ht
    exact ⟨u, rfl, hc⟩
  · rintro ⟨u, rfl, hu⟩
    exact ⟨u.toNat, rfl, hu⟩

/-- A unit that stands for itself. -/
theorem spans_single_iff {u : CodeUnit} :
    Spans s (.characters (.single u.toNat)) before t after ↔ t = [u] := by
  rw [spans_characters_iff]
  simp only [has_single_iff]
  constructor
  · rintro ⟨_, rfl, rfl⟩
    rfl
  · rintro rfl
    exact ⟨u, rfl, rfl⟩

theorem spans_either_iff :
    Spans s (.either a b) before t after ↔ Spans s a before t after ∨ Spans s b before t after :=
  takes_either_iff

theorem spans_capture_iff {index : Nat} :
    Spans s (.capture index body) before t after ↔ Spans s body before t after :=
  takes_capture_iff

theorem spans_optional_iff :
    Spans s (.repetition body 0 (some 1) greedy firstGroup endGroup) before t after ↔
      t = [] ∨ Spans s body before t after := by
  rw [Spans, takes_optional_iff, List.map_eq_nil_iff]
  rfl

theorem spans_run_iff :
    Spans s (.repetition (.characters set) 0 none greedy firstGroup endGroup) before t after ↔
      ∀ u ∈ t, set.has u.toNat = true := by
  rw [Spans, takes_run_iff, List.forall_mem_map]

theorem spans_someRun_iff :
    Spans s (.repetition (.characters set) 1 none greedy firstGroup endGroup) before t after ↔
      t ≠ [] ∧ ∀ u ∈ t, set.has u.toNat = true := by
  rw [Spans, takes_someRun_iff, List.forall_mem_map, ne_eq, List.map_eq_nil_iff]

end Regex

end FieldValidation
