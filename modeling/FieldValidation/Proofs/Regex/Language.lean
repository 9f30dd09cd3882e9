import FieldValidation.Regex.Matching

/-!
# What an expression takes

Which pieces of a text an expression matches, between what stands before and after them. This says
nothing of the order in which the ways to match are tried, and nothing of the texts that are kept
of the groups; so it is for the expressions that do not look at either: those without references to
groups and without looks ahead or behind.

## Main definitions

* `Regex.Node.IsPlain`: an expression without references and looks
* `Regex.Takes`: what an expression takes between two parts of a text

## Main results

* `Regex.takes_optional_iff`: an expression that need not be there
* `Regex.takes_run_iff`, `Regex.takes_someRun_iff`: runs of characters of a set
-/

namespace FieldValidation

namespace Regex

/-- An expression without references to groups and without looks ahead or behind. -/
def Node.IsPlain : Node → Prop
  | .empty | .characters _ | .anchor _ => True
  | .sequence a b | .either a b => a.IsPlain ∧ b.IsPlain
  | .capture _ body | .repetition body _ _ _ _ _ => body.IsPlain
  | .reference _ | .look _ _ _ => False

/-- What an expression takes between what stands before it and what stands after it. -/
inductive Takes (s : Subject) : Node → (before taken after : List Nat) → Prop
  | empty {before after : List Nat} : Takes s .empty before [] after
  | characters {set : CharacterSet} {c : Nat} {before after : List Nat} (h : set.has c = true) :
      Takes s (.characters set) before [c] after
  | sequence {a b : Node} {before x y after : List Nat} (ha : Takes s a before x (y ++ after))
      (hb : Takes s b (before ++ x) y after) : Takes s (.sequence a b) before (x ++ y) after
  | left {a b : Node} {before x after : List Nat} (h : Takes s a before x after) :
      Takes s (.either a b) before x after
  | right {a b : Node} {before x after : List Nat} (h : Takes s b before x after) :
      Takes s (.either a b) before x after
  | anchor {a : Anchor} {before after : List Nat} (h : s.isAt before.length a = true) :
      Takes s (.anchor a) before [] after
  | capture {index : Nat} {body : Node} {before x after : List Nat}
      (h : Takes s body before x after) : Takes s (.capture index body) before x after
  /-- No further round, where none has to be or none may be. -/
  | leave {body : Node} {least : Nat} {most : Option Nat} {greedy : Bool}
      {firstGroup endGroup : Nat} {before after : List Nat} (h : least = 0 ∨ most = some 0) :
      Takes s (.repetition body least most greedy firstGroup endGroup) before [] after
  /-- A round, which takes something unless it has to be. -/
  | round {body : Node} {least : Nat} {most : Option Nat} {greedy : Bool}
      {firstGroup endGroup : Nat} {before x y after : List Nat} (hmost : most ≠ some 0)
      (hbody : Takes s body before x (y ++ after)) (hsome : least = 0 → x ≠ [])
      (hrest : Takes s (.repetition body (least - 1) (most.map (· - 1)) greedy firstGroup endGroup)
        (before ++ x) y after) :
      Takes s (.repetition body least most greedy firstGroup endGroup) before (x ++ y) after

variable {s : Subject} {set : CharacterSet} {a b body : Node} {before x after : List Nat}
  {least : Nat} {most : Option Nat} {greedy : Bool} {firstGroup endGroup : Nat}

/-! ## One expression -/

theorem takes_empty_iff : Takes s .empty before x after ↔ x = [] := by
  constructor
  · intro h
    cases h
    rfl
  · rintro rfl
    exact .empty

theorem takes_characters_iff :
    Takes s (.characters set) before x after ↔ ∃ c, x = [c] ∧ set.has c = true := by
  constructor
  · intro h
    cases h with
    | characters h => exact ⟨_, rfl, h⟩
  · rintro ⟨c, rfl, h⟩
    exact .characters h

theorem takes_sequence_iff :
    Takes s (.sequence a b) before x after ↔
      ∃ y z, x = y ++ z ∧ Takes s a before y (z ++ after) ∧ Takes s b (before ++ y) z after := by
  constructor
  · intro h
    cases h with
    | sequence ha hb => exact ⟨_, _, rfl, ha, hb⟩
  · rintro ⟨y, z, rfl, ha, hb⟩
    exact .sequence ha hb

theorem takes_either_iff :
    Takes s (.either a b) before x after ↔ Takes s a before x after ∨ Takes s b before x after := by
  constructor
  · intro h
    cases h with
    | left h => exact .inl h
    | right h => exact .inr h
  · rintro (h | h)
    · exact .left h
    · exact .right h

theorem takes_anchor_iff {anchor : Anchor} :
    Takes s (.anchor anchor) before x after ↔ x = [] ∧ s.isAt before.length anchor = true := by
  constructor
  · intro h
    cases h with
    | anchor h => exact ⟨rfl, h⟩
  · rintro ⟨rfl, h⟩
    exact .anchor h

theorem takes_capture_iff {index : Nat} :
    Takes s (.capture index body) before x after ↔ Takes s body before x after := by
  constructor
  · intro h
    cases h with
    | capture h => exact h
  · exact .capture

theorem takes_repetition_iff :
    Takes s (.repetition body least most greedy firstGroup endGroup) before x after ↔
      (x = [] ∧ (least = 0 ∨ most = some 0)) ∨
        ∃ y z, x = y ++ z ∧ most ≠ some 0 ∧ Takes s body before y (z ++ after) ∧
          (least = 0 → y ≠ []) ∧
          Takes s (.repetition body (least - 1) (most.map (· - 1)) greedy firstGroup endGroup)
            (before ++ y) z after := by
  constructor
  · intro h
    cases h with
    | leave h => exact .inl ⟨rfl, h⟩
    | round hmost hbody hsome hrest => exact .inr ⟨_, _, rfl, hmost, hbody, hsome, hrest⟩
  · rintro (⟨rfl, h⟩ | ⟨y, z, rfl, hmost, hbody, hsome, hrest⟩)
    · exact .leave h
    · exact .round hmost hbody hsome hrest

/-! ## Repetitions -/

/-- A repetition that may have no further round takes nothing. -/
theorem takes_noRound_iff :
    Takes s (.repetition body least (some 0) greedy firstGroup endGroup) before x after ↔
      x = [] := by
  rw [takes_repetition_iff]
  simp

/-- An expression that need not be there takes nothing or what it takes. -/
theorem takes_optional_iff :
    Takes s (.repetition body 0 (some 1) greedy firstGroup endGroup) before x after ↔
      x = [] ∨ Takes s body before x after := by
  rw [takes_repetition_iff]
  constructor
  · rintro (⟨hx, -⟩ | ⟨y, z, rfl, -, hbody, -, hrest⟩)
    · exact .inl hx
    · obtain rfl : z = [] := takes_noRound_iff.mp hrest
      right
      simpa using hbody
  · rintro (hx | hbody)
    · exact .inl ⟨hx, .inl rfl⟩
    · by_cases hx : x = []
      · exact .inl ⟨hx, .inl rfl⟩
      · exact .inr ⟨x, [], by simp, by simp, by simpa using hbody, fun _ => hx,
          takes_noRound_iff.mpr rfl⟩

/-- Any number of characters of a set. -/
theorem takes_run_iff :
    Takes s (.repetition (.characters set) 0 none greedy firstGroup endGroup) before x after ↔
      ∀ c ∈ x, set.has c = true := by
  induction x generalizing before with
  | nil => exact ⟨fun _ => nofun, fun _ => .leave (.inl rfl)⟩
  | cons c rest ih =>
    rw [takes_repetition_iff]
    constructor
    · rintro (⟨hx, -⟩ | ⟨y, z, hx, -, hbody, -, hrest⟩)
      · cases hx
      · obtain ⟨d, rfl, hd⟩ := takes_characters_iff.mp hbody
        obtain ⟨rfl, rfl⟩ := List.cons.inj hx
        exact List.forall_mem_cons.mpr ⟨hd, ih.mp hrest⟩
    · intro h
      obtain ⟨hc, hrest⟩ := List.forall_mem_cons.mp h
      exact .inr ⟨[c], rest, rfl, by simp, .characters hc, by simp, ih.mpr hrest⟩

/-- At least one character of a set. -/
theorem takes_someRun_iff :
    Takes s (.repetition (.characters set) 1 none greedy firstGroup endGroup) before x after ↔
      x ≠ [] ∧ ∀ c ∈ x, set.has c = true := by
  rw [takes_repetition_iff]
  constructor
  · rintro (⟨-, hleast | hmost⟩ | ⟨y, z, rfl, -, hbody, -, hrest⟩)
    · cases hleast
    · cases hmost
    · obtain ⟨c, rfl, hc⟩ := takes_characters_iff.mp hbody
      exact ⟨by simp, List.forall_mem_cons.mpr ⟨hc, takes_run_iff.mp hrest⟩⟩
  · rintro ⟨hne, h⟩
    obtain ⟨c, rest, rfl⟩ := List.exists_cons_of_ne_nil hne
    obtain ⟨hc, hrest⟩ := List.forall_mem_cons.mp h
    exact .inr ⟨[c], rest, rfl, by simp, .characters hc, by simp, takes_run_iff.mpr hrest⟩

end Regex

end FieldValidation
