import FieldValidation.Proofs.Regex.Language
import FieldValidation.Regex.Delimited

/-!
# A search finds what an expression takes

The search by backtracking comes to an answer for every expression without references and looks, and
the answer is whether the expression takes something. What is left to do at a place either succeeds,
whatever ways are on the stack, or fails and goes back to them: this is so of every expression, if
it is so of what is left to do after each piece that the expression takes. Every round of a
repetition either has to be or takes something, so the rounds come to an end.

A search is given up after a number of steps, so the answer is that of all searches with enough
steps, and a match that is found is one in any case.

## Main definitions

* `Regex.Halts`: a search comes to an answer
* `Regex.Decides`: what is left to do succeeds just where a condition holds
* `Regex.Finds`: an expression takes a piece of a text
* `Regex.testWithin`: the search within a number of steps

## Main results

* `Regex.Node.IsPlain.isDecided`: the search for an expression without references and looks
* `Regex.finds_of_test`: what is found is there
* `Regex.exists_testWithin_iff`: what is there is found in enough steps
-/

namespace FieldValidation

namespace Regex

/-- A search comes to an answer. -/
inductive Halts (s : Subject) : Configuration → Bool → Prop
  | answer {config : Configuration} {found : Bool} (h : config.step s = .error found) :
      Halts s config found
  | step {config next : Configuration} {found : Bool} (h : config.step s = .ok next)
      (hnext : Halts s next found) : Halts s config found

variable {s : Subject}

/-- The answer is that of all runs with enough steps. -/
theorem Halts.exists_run {config : Configuration} {found : Bool} (h : Halts s config found) :
    ∃ enough, ∀ steps, enough ≤ steps → Configuration.run s steps config = found := by
  induction h with
  | answer h =>
    refine ⟨1, fun steps hsteps => ?_⟩
    obtain ⟨more, rfl⟩ := Nat.exists_eq_add_of_le' hsteps
    rw [Configuration.run, h]
  | step h _ ih =>
    obtain ⟨enough, hrun⟩ := ih
    refine ⟨enough + 1, fun steps hsteps => ?_⟩
    obtain ⟨more, rfl⟩ := Nat.exists_eq_add_of_le' (Nat.le_of_add_left_le hsteps)
    rw [Configuration.run, h]
    exact hrun more (by omega)

/-- A run that succeeds has come to an answer. -/
theorem halts_of_run {steps : Nat} {config : Configuration}
    (h : Configuration.run s steps config = true) : Halts s config true := by
  induction steps generalizing config with
  | zero => cases h
  | succ steps ih =>
    rw [Configuration.run] at h
    split at h
    · next hstep => exact .answer (h ▸ hstep)
    · next hstep => exact .step hstep (ih h)

/-- A search comes to no more than one answer. -/
theorem Halts.unique {config : Configuration} {found found' : Bool} (h : Halts s config found)
    (h' : Halts s config found') : found = found' := by
  obtain ⟨enough, hrun⟩ := h.exists_run
  obtain ⟨enough', hrun'⟩ := h'.exists_run
  rw [← hrun (max enough enough') (Nat.le_max_left ..),
    ← hrun' (max enough enough') (Nat.le_max_right ..)]

/-! ## What is left to do -/

/-- What is left to do from a place succeeds where a condition holds, and otherwise fails, so that
the ways on the stack are tried. -/
structure Decides (s : Subject) (tasks : List Task) (place : Nat) (found : Prop) : Prop where
  succeeds : found → ∀ captures stack, Halts s ⟨some ⟨tasks, place, captures⟩, stack⟩ true
  fails : ¬ found → ∀ captures stack answer, Halts s ⟨none, stack⟩ answer →
    Halts s ⟨some ⟨tasks, place, captures⟩, stack⟩ answer

section Decides

variable {tasks tasks' first second : List Task} {place place' : Nat} {found found' : Prop}

theorem Decides.congr (h : Decides s tasks place found) (hiff : found ↔ found') :
    Decides s tasks place found' := propext hiff ▸ h

/-- Nothing left to do is success. -/
theorem decides_nil (s : Subject) (place : Nat) : Decides s [] place True where
  succeeds _ _ _ := .answer rfl
  fails h := absurd trivial h

/-- A step on the way, which may change the texts kept of groups. -/
theorem Decides.of_step (h : Decides s tasks' place' found)
    (hstep : ∀ captures stack, ∃ captures',
      Configuration.step s ⟨some ⟨tasks, place, captures⟩, stack⟩ =
        .ok ⟨some ⟨tasks', place', captures'⟩, stack⟩) : Decides s tasks place found where
  succeeds hfound captures stack := by
    obtain ⟨captures', hnext⟩ := hstep captures stack
    exact .step hnext (h.succeeds hfound captures' stack)
  fails hnot captures stack answer hstack := by
    obtain ⟨captures', hnext⟩ := hstep captures stack
    exact .step hnext (h.fails hnot captures' stack answer hstack)

/-- A step that fails. -/
theorem Decides.of_failure
    (hstep : ∀ captures stack,
      Configuration.step s ⟨some ⟨tasks, place, captures⟩, stack⟩ = .ok ⟨none, stack⟩)
    (hnot : ¬ found) : Decides s tasks place found where
  succeeds hfound := absurd hfound hnot
  fails _ captures stack _ hstack := .step (hstep captures stack) hstack

/-- A choice between two ways: the second one is taken up when the first one has failed. -/
theorem Decides.of_choice (h : Decides s first place found) (h' : Decides s second place found')
    (hstep : ∀ captures stack, ∃ captures' captures'',
      Configuration.step s ⟨some ⟨tasks, place, captures⟩, stack⟩ =
        .ok ⟨some ⟨first, place, captures'⟩, .resume ⟨second, place, captures''⟩ :: stack⟩) :
    Decides s tasks place (found ∨ found') where
  succeeds hfound captures stack := by
    obtain ⟨captures', captures'', hnext⟩ := hstep captures stack
    by_cases hfirst : found
    · exact .step hnext (h.succeeds hfirst captures' _)
    · have hsecond := hfound.resolve_left hfirst
      exact .step hnext (h.fails hfirst captures' _ true
        (.step rfl (h'.succeeds hsecond captures'' stack)))
  fails hnot captures stack answer hstack := by
    obtain ⟨captures', captures'', hnext⟩ := hstep captures stack
    obtain ⟨hfirst, hsecond⟩ := not_or.mp hnot
    exact .step hnext (h.fails hfirst captures' _ answer
      (.step rfl (h'.fails hsecond captures'' stack answer hstack)))

end Decides

/-! ## The search for an expression -/

/-- An expression takes a piece from the front of what is left of a text, and between what then
stands before and after there holds a condition. -/
def TakesThen (s : Subject) (n : Node) (before rest : List Nat)
    (found : List Nat → List Nat → Prop) : Prop :=
  ∃ x after, rest = x ++ after ∧ Takes s n before x after ∧ found (before ++ x) after

/-- The search for an expression is decided, if that of what is left to do after it is. -/
def IsDecided (s : Subject) (n : Node) : Prop :=
  ∀ ⦃tasks : List Task⦄ ⦃before rest : List Nat⦄ ⦃found : List Nat → List Nat → Prop⦄,
    s.characters.toList = before ++ rest →
    (∀ x after, rest = x ++ after → Takes s n before x after →
      Decides s tasks (before ++ x).length (found (before ++ x) after)) →
    Decides s (.node n true :: tasks) before.length (TakesThen s n before rest found)

variable {n a b body : Node} {tasks : List Task} {before rest : List Nat}
  {found : List Nat → List Nat → Prop}

/-- What takes nothing leaves the condition as it is. -/
theorem takesThen_iff_of_nil (h : ∀ x after, Takes s n before x after ↔ x = []) :
    TakesThen s n before rest found ↔ found before rest := by
  constructor
  · rintro ⟨x, after, rfl, hx, hfound⟩
    obtain rfl := (h x after).mp hx
    rwa [List.append_nil] at hfound
  · intro hfound
    exact ⟨[], rest, rfl, (h [] rest).mpr rfl, by rwa [List.append_nil]⟩

theorem isDecided_empty : IsDecided s .empty := by
  intro tasks before rest found hchars htasks
  have hnext := htasks [] rest rfl .empty
  rw [List.append_nil] at hnext
  refine (hnext.of_step fun captures _ => ⟨captures, rfl⟩).congr ?_
  exact (takesThen_iff_of_nil fun _ _ => takes_empty_iff).symm

/-- The next character is the first one that is left. -/
theorem next?_of_toList (hchars : s.characters.toList = before ++ rest) :
    s.next? true before.length = rest.head?.map (·, before.length + 1) := by
  have hget : s.characters[before.length]? = rest.head? := by
    rw [← Array.getElem?_toList, hchars, List.getElem?_append_right (Nat.le_refl _), Nat.sub_self,
      List.head?_eq_getElem?]
  simp [Subject.next?, hget]

theorem isDecided_characters (set : CharacterSet) : IsDecided s (.characters set) := by
  intro tasks before rest found hchars htasks
  have hnext := next?_of_toList hchars
  cases rest with
  | nil =>
    apply Decides.of_failure
    · intro captures stack
      simp [Configuration.step, Configuration.enter, hnext]
    · rintro ⟨x, after, hrest, hx, -⟩
      obtain ⟨c, rfl, -⟩ := takes_characters_iff.mp hx
      cases hrest
  | cons c after =>
    by_cases hc : set.has c = true
    · have hdecided := htasks [c] after rfl (.characters hc)
      rw [List.length_append, List.length_singleton] at hdecided
      refine (hdecided.of_step fun captures stack => ⟨captures, ?_⟩).congr ?_
      · simp [Configuration.step, Configuration.enter, hnext, hc]
      · constructor
        · exact fun hfound => ⟨[c], after, rfl, .characters hc, hfound⟩
        · rintro ⟨x, after', hrest, hx, hfound⟩
          obtain ⟨d, rfl, -⟩ := takes_characters_iff.mp hx
          obtain ⟨rfl, rfl⟩ := List.cons.inj hrest
          exact hfound
    · apply Decides.of_failure
      · intro captures stack
        simp [Configuration.step, Configuration.enter, hnext, hc]
      · rintro ⟨x, after', hrest, hx, -⟩
        obtain ⟨d, rfl, hd⟩ := takes_characters_iff.mp hx
        obtain ⟨rfl, -⟩ := List.cons.inj hrest
        exact hc hd

theorem isDecided_sequence (ha : IsDecided s a) (hb : IsDecided s b) :
    IsDecided s (.sequence a b) := by
  intro tasks before rest found hchars htasks
  have hfirst : Decides s (.node a true :: .node b true :: tasks) before.length
      (TakesThen s a before rest fun before' rest' => TakesThen s b before' rest' found) := by
    apply ha hchars
    rintro x after rfl hx
    apply hb (by rw [hchars, List.append_assoc])
    rintro y after' rfl hy
    have hnext := htasks (x ++ y) after' (by rw [List.append_assoc]) (.sequence hx hy)
    rwa [← List.append_assoc] at hnext
  refine (hfirst.of_step fun captures _ => ⟨captures, rfl⟩).congr ?_
  constructor
  · rintro ⟨x, after, rfl, hx, y, after', rfl, hy, hfound⟩
    rw [List.append_assoc] at hfound
    exact ⟨x ++ y, after', by rw [List.append_assoc], .sequence hx hy, hfound⟩
  · rintro ⟨z, after, rfl, hz, hfound⟩
    obtain ⟨x, y, rfl, hx, hy⟩ := takes_sequence_iff.mp hz
    rw [← List.append_assoc] at hfound
    exact ⟨x, y ++ after, by rw [List.append_assoc], hx, y, after, rfl, hy, hfound⟩

theorem isDecided_either (ha : IsDecided s a) (hb : IsDecided s b) :
    IsDecided s (.either a b) := by
  intro tasks before rest found hchars htasks
  have hleft := ha hchars fun x after hrest hx => htasks x after hrest (.left hx)
  have hright := hb hchars fun x after hrest hx => htasks x after hrest (.right hx)
  refine (hleft.of_choice hright fun captures _ => ⟨captures, captures, rfl⟩).congr ?_
  constructor
  · rintro (⟨x, after, hrest, hx, hfound⟩ | ⟨x, after, hrest, hx, hfound⟩)
    · exact ⟨x, after, hrest, .left hx, hfound⟩
    · exact ⟨x, after, hrest, .right hx, hfound⟩
  · rintro ⟨x, after, hrest, hx, hfound⟩
    rcases takes_either_iff.mp hx with hx | hx
    · exact .inl ⟨x, after, hrest, hx, hfound⟩
    · exact .inr ⟨x, after, hrest, hx, hfound⟩

theorem isDecided_capture (index : Nat) (hbody : IsDecided s body) :
    IsDecided s (.capture index body) := by
  intro tasks before rest found hchars htasks
  have hkeep : Decides s (.node body true :: .keep index before.length :: tasks) before.length
      (TakesThen s body before rest found) := by
    apply hbody hchars
    intro x after hrest hx
    have hnext := htasks x after hrest (.capture hx)
    exact hnext.of_step fun _ _ => ⟨_, rfl⟩
  refine (hkeep.of_step fun captures _ => ⟨captures, rfl⟩).congr ?_
  unfold TakesThen
  simp only [takes_capture_iff]

theorem isDecided_anchor (anchor : Anchor) : IsDecided s (.anchor anchor) := by
  intro tasks before rest found hchars htasks
  by_cases hat : s.isAt before.length anchor = true
  · have hnext := htasks [] rest rfl (.anchor hat)
    rw [List.append_nil] at hnext
    refine (hnext.of_step fun captures _ => ⟨captures, ?_⟩).congr ?_
    · simp [Configuration.step, Configuration.enter, hat]
    · refine (takesThen_iff_of_nil fun _ _ => ?_).symm
      rw [takes_anchor_iff, and_iff_left hat]
  · apply Decides.of_failure
    · intro captures stack
      simp [Configuration.step, Configuration.enter, hat]
    · rintro ⟨x, after, -, hx, -⟩
      exact hat (takes_anchor_iff.mp hx).2

/-! ## The rounds of a repetition -/

/-- The repetition whose rounds are left. -/
def Round.toNode (r : Round) : Node :=
  .repetition r.body r.least r.most r.greedy r.firstGroup r.endGroup

/-- The rounds that are left after one more. -/
def Round.next (r : Round) : Round :=
  { r with least := r.least - 1, most := r.most.map (· - 1) }

/-- A round, which takes something unless it has to be, and then the other rounds. -/
def RoundsThen (s : Subject) (r : Round) (before rest : List Nat)
    (found : List Nat → List Nat → Prop) : Prop :=
  TakesThen s r.body before rest fun before' rest' =>
    (r.least = 0 → before' ≠ before) ∧ TakesThen s r.next.toNode before' rest' found

variable {r : Round}

theorem takesThen_toNode_iff (hmost : r.most ≠ some 0) :
    TakesThen s r.toNode before rest found ↔
      (r.least = 0 ∧ found before rest) ∨ RoundsThen s r before rest found := by
  constructor
  · rintro ⟨z, after, rfl, hz, hfound⟩
    rcases takes_repetition_iff.mp hz with ⟨rfl, hleast⟩ | ⟨x, y, rfl, -, hx, hsome, hy⟩
    · rw [List.append_nil] at hfound
      exact .inl ⟨hleast.resolve_right hmost, hfound⟩
    · rw [← List.append_assoc] at hfound
      refine .inr ⟨x, y ++ after, by rw [List.append_assoc], hx, ?_, y, after, rfl, hy, hfound⟩
      simpa using hsome
  · rintro (⟨hleast, hfound⟩ | ⟨x, after, rfl, hx, hsome, y, after', rfl, hy, hfound⟩)
    · exact ⟨[], rest, rfl, .leave (.inl hleast), by rwa [List.append_nil]⟩
    · rw [List.append_assoc] at hfound
      refine ⟨x ++ y, after', by rw [List.append_assoc], ?_, hfound⟩
      exact .round hmost hx (by simpa using hsome) hy

/-- A round is decided, if its body and the rounds after it are. -/
theorem decides_round (hbody : IsDecided s r.body) (hchars : s.characters.toList = before ++ rest)
    (hagain : ∀ x after, rest = x ++ after → Takes s r.body before x after →
      (r.least = 0 → x ≠ []) →
      Decides s (.again r.next true :: tasks) (before ++ x).length
        (TakesThen s r.next.toNode (before ++ x) after found)) :
    Decides s (.node r.body true :: .endRound r true before.length :: tasks) before.length
      (RoundsThen s r before rest found) := by
  apply hbody hchars
  intro x after hrest hx
  by_cases hempty : r.least = 0 ∧ x = []
  · obtain ⟨hleast, rfl⟩ := hempty
    apply Decides.of_failure
    · intro captures stack
      simp [Configuration.step, hleast]
    · rintro ⟨hsome, -⟩
      exact hsome hleast (List.append_nil before)
  · have hsome : r.least = 0 → before ++ x ≠ before := by simpa using hempty
    have hplace : ¬ (r.least = 0 ∧ (before ++ x).length = before.length) := by simpa using hempty
    have hnext := hagain x after hrest hx fun hleast hnil => hempty ⟨hleast, hnil⟩
    refine (hnext.of_step fun captures _ => ⟨captures, ?_⟩).congr (and_iff_right hsome).symm
    simp only [Configuration.step, if_neg hplace]
    rfl

/-- To begin a round, or to leave the repetition where no further round has to be: which of the two
is tried first makes no difference to whether one of them succeeds. -/
theorem decides_beginRound {place : Nat} {rounds out : Prop} (hmost : r.most ≠ some 0)
    (hround : Decides s (.node r.body true :: .endRound r true place :: tasks) place rounds)
    (hout : r.least = 0 → Decides s tasks place out) :
    Decides s (.again r true :: tasks) place ((r.least = 0 ∧ out) ∨ rounds) := by
  by_cases hleast : r.least = 0
  · rw [and_iff_right hleast]
    cases hgreedy : r.greedy with
    | true =>
      refine (hround.of_choice (hout hleast) fun captures _ =>
        ⟨forget captures r.firstGroup r.endGroup, captures, ?_⟩).congr or_comm
      simp [Configuration.step, Configuration.beginRound, hmost, hleast, hgreedy]
    | false =>
      refine (hout hleast).of_choice hround fun captures _ =>
        ⟨captures, forget captures r.firstGroup r.endGroup, ?_⟩
      simp [Configuration.step, Configuration.beginRound, hmost, hleast, hgreedy]
  · refine (hround.of_step fun captures _ =>
      ⟨forget captures r.firstGroup r.endGroup, ?_⟩).congr ?_
    · simp [Configuration.step, Configuration.beginRound, hmost, hleast]
    · simp [hleast]

/-- Where no round may be the repetition is left. -/
theorem decides_noRound {place : Nat} {out : Prop} (hmost : r.most = some 0)
    (hout : Decides s tasks place out) : Decides s (.again r true :: tasks) place out := by
  refine hout.of_step fun captures _ => ⟨captures, ?_⟩
  simp [Configuration.step, Configuration.beginRound, hmost]

/-- The rounds of a repetition are decided, if the body is. The induction is on the rounds that have
to be and on what is left of the text: a round that need not be takes a part of that. -/
theorem decides_again (hbody : IsDecided s r.body) (hchars : s.characters.toList = before ++ rest)
    (htasks : ∀ x after, rest = x ++ after → Takes s r.toNode before x after →
      Decides s tasks (before ++ x).length (found (before ++ x) after)) :
    Decides s (.again r true :: tasks) before.length (TakesThen s r.toNode before rest found) := by
  induction hsize : r.least + rest.length using Nat.strongRecOn
    generalizing r before rest found with
  | ind size ih =>
    have hout (hleave : r.least = 0 ∨ r.most = some 0) :
        Decides s tasks before.length (found before rest) := by
      have hnil := htasks [] rest rfl (.leave hleave)
      rwa [List.append_nil] at hnil
    by_cases hmost : r.most = some 0
    · refine (decides_noRound hmost (hout (.inr hmost))).congr (takesThen_iff_of_nil ?_).symm
      intro x after
      rw [Round.toNode, hmost]
      exact takes_noRound_iff
    have hround : Decides s (.node r.body true :: .endRound r true before.length :: tasks)
        before.length (RoundsThen s r before rest found) := by
      apply decides_round hbody hchars
      rintro x after rfl hx hsome
      have hsmaller : r.next.least + after.length < size := by
        have hx : r.least = 0 → 0 < x.length := fun hleast =>
          List.length_pos_iff.mpr (hsome hleast)
        rw [List.length_append] at hsize
        show r.least - 1 + after.length < size
        omega
      refine ih _ hsmaller hbody (by rw [hchars, List.append_assoc]) ?_ rfl
      rintro y after' rfl hy
      have hnext := htasks (x ++ y) after' (by rw [List.append_assoc]) (.round hmost hx hsome hy)
      rwa [← List.append_assoc] at hnext
    exact (decides_beginRound hmost hround fun hleast => hout (.inl hleast)).congr
      (takesThen_toNode_iff hmost).symm

theorem isDecided_repetition (hbody : IsDecided s body) (least : Nat) (most : Option Nat)
    (greedy : Bool) (firstGroup endGroup : Nat) :
    IsDecided s (.repetition body least most greedy firstGroup endGroup) := by
  intro tasks before rest found hchars htasks
  have hrounds : Decides s (.again ⟨body, least, most, greedy, firstGroup, endGroup⟩ true :: tasks)
      before.length
      (TakesThen s (.repetition body least most greedy firstGroup endGroup) before rest found) :=
    decides_again hbody hchars htasks
  exact hrounds.of_step fun captures _ => ⟨captures, rfl⟩

/-- The search for an expression without references and looks is decided. -/
theorem Node.IsPlain.isDecided {n : Node} (h : n.IsPlain) : IsDecided s n := by
  induction n with
  | empty => exact isDecided_empty
  | characters set => exact isDecided_characters set
  | sequence a b iha ihb => exact isDecided_sequence (iha h.1) (ihb h.2)
  | either a b iha ihb => exact isDecided_either (iha h.1) (ihb h.2)
  | anchor a => exact isDecided_anchor a
  | capture index body ih => exact isDecided_capture index (ih h)
  | repetition body least most greedy firstGroup endGroup ih =>
    exact isDecided_repetition (ih h) least most greedy firstGroup endGroup
  | reference | look => exact h.elim

/-! ## The search in a text -/

/-- A search for an expression from a place on. -/
def Configuration.start (n : Node) (groupCount place : Nat) : Configuration :=
  ⟨some ⟨[.node n true], place, List.replicate (groupCount + 1) none⟩, []⟩

/-- A search from a place comes to an answer: whether the expression takes something there. -/
theorem Node.IsPlain.exists_halts {n : Node} (h : n.IsPlain) (groupCount : Nat)
    (hchars : s.characters.toList = before ++ rest) :
    ∃ answer, Halts s (.start n groupCount before.length) answer ∧
      (answer = true ↔ ∃ x after, rest = x ++ after ∧ Takes s n before x after) := by
  have hdecided : Decides s [.node n true] before.length
      (TakesThen s n before rest fun _ _ => True) :=
    h.isDecided hchars fun x _ _ _ => decides_nil s _
  have hiff : TakesThen s n before rest (fun _ _ => True) ↔
      ∃ x after, rest = x ++ after ∧ Takes s n before x after := by
    simp [TakesThen]
  by_cases htakes : TakesThen s n before rest fun _ _ => True
  · exact ⟨true, hdecided.succeeds htakes _ _, iff_of_true rfl (hiff.mp htakes)⟩
  · exact ⟨false, hdecided.fails htakes _ _ false (.answer rfl),
      iff_of_false nofun (mt hiff.mpr htakes)⟩

end Regex

namespace Regex

variable {regex : Regex} {t : Text}

/-- What a search for a regular expression in a text looks at. -/
def subject (regex : Regex) (t : Text) : Subject :=
  ⟨(charactersOf regex.flags.unicode t).toArray, regex.flags, regex.flags.wordCharacters⟩

/-- The regular expression takes a piece of a text, at the start if it has to be there. -/
def Finds (regex : Regex) (t : Text) : Prop :=
  ∃ before x after, charactersOf regex.flags.unicode t = before ++ (x ++ after) ∧
    (regex.flags.sticky = true → before = []) ∧
    Takes (regex.subject t) regex.node before x after

/-- Whether the search for a regular expression in a text succeeds within a number of steps from
each place. -/
def testWithin (steps : Nat) (regex : Regex) (t : Text) : Bool :=
  let matchesAt (place : Nat) : Bool :=
    Configuration.run (regex.subject t) steps (.start regex.node regex.groupCount place)
  if regex.flags.sticky then matchesAt 0
  else (List.range ((regex.subject t).characters.size + 1)).any matchesAt

theorem test_eq_testWithin (regex : Regex) (t : Text) :
    regex.test t = regex.testWithin stepLimit t := rfl

/-- The search succeeds where it does so from a place that it may begin at. -/
theorem testWithin_iff {steps : Nat} :
    regex.testWithin steps t = true ↔
      ∃ before rest, charactersOf regex.flags.unicode t = before ++ rest ∧
        (regex.flags.sticky = true → before = []) ∧
        Configuration.run (regex.subject t) steps
          (.start regex.node regex.groupCount before.length) = true := by
  unfold testWithin
  cases regex.flags.sticky with
  | true =>
    constructor
    · exact fun hrun => ⟨[], _, rfl, fun _ => rfl, hrun⟩
    · rintro ⟨before, rest, -, hbefore, hrun⟩
      rwa [hbefore rfl] at hrun
  | false =>
    simp only [Bool.false_eq_true, if_false, List.any_eq_true, List.mem_range, false_implies,
      true_and]
    constructor
    · rintro ⟨place, hplace, hrun⟩
      have hlength : ((charactersOf regex.flags.unicode t).take place).length = place := by
        rw [List.length_take, Nat.min_eq_left]
        simpa [subject, Nat.lt_succ_iff] using hplace
      exact ⟨_, _, (List.take_append_drop place _).symm, by rwa [hlength]⟩
    · rintro ⟨before, rest, hchars, hrun⟩
      refine ⟨before.length, ?_, hrun⟩
      simp only [subject, hchars, List.size_toArray, List.length_append]
      omega

/-- What a search finds is there. -/
theorem finds_of_testWithin (hplain : regex.node.IsPlain) {steps : Nat}
    (h : regex.testWithin steps t = true) : regex.Finds t := by
  obtain ⟨before, rest, hchars, hbefore, hrun⟩ := testWithin_iff.mp h
  obtain ⟨answer, hhalts, hanswer⟩ :=
    hplain.exists_halts (s := regex.subject t) regex.groupCount hchars
  obtain ⟨x, after, rfl, htakes⟩ := hanswer.mp (hhalts.unique (halts_of_run hrun))
  exact ⟨before, x, after, hchars, hbefore, htakes⟩

theorem finds_of_test (hplain : regex.node.IsPlain) (h : regex.test t = true) :
    regex.Finds t := by
  rw [test_eq_testWithin] at h
  exact finds_of_testWithin hplain h

/-- All searches with enough steps find what is there, and nothing else. -/
theorem exists_testWithin_iff (hplain : regex.node.IsPlain) (t : Text) :
    ∃ enough, ∀ steps, enough ≤ steps → (regex.testWithin steps t = true ↔ regex.Finds t) := by
  by_cases hfinds : regex.Finds t
  · obtain ⟨before, x, after, hchars, hbefore, htakes⟩ := hfinds
    obtain ⟨answer, hhalts, hanswer⟩ :=
      hplain.exists_halts (s := regex.subject t) regex.groupCount hchars
    rw [hanswer.mpr ⟨x, after, rfl, htakes⟩] at hhalts
    obtain ⟨enough, hrun⟩ := hhalts.exists_run
    refine ⟨enough, fun steps hsteps => iff_of_true ?_ ⟨before, x, after, hchars, hbefore, htakes⟩⟩
    exact testWithin_iff.mpr ⟨before, x ++ after, hchars, hbefore, hrun steps hsteps⟩
  · exact ⟨0, fun steps _ => iff_of_false (mt (finds_of_testWithin hplain) hfinds) hfinds⟩

end Regex

end FieldValidation
