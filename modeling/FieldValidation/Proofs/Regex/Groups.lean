import FieldValidation.Proofs.Regex.Units
import FieldValidation.Proofs.Text.CodePoints
import FieldValidation.Regex.Searcher

/-!
# What a search keeps of the groups

A search that succeeds ends on a way, and the texts of the groups are those that were kept on this
way. Which of several ways it is depends on the order in which they are tried. Where all ways that
can succeed are alike this order is of no account: what is left to do then leads to an end that is
good, or fails and goes back to the ways on the stack. There is one rule for each construct, which
asks this of what is left to do after it.

A searcher that is new or never goes on from its last search begins at the start, so that it finds
something just where the regular expression does.

## Main definitions

* `Regex.Ends`: a search succeeds on a way
* `Regex.Yields`: what is left to do leads to good ends only

## Main results

* `Regex.isSome_outcome`: there is a way just where a search succeeds
* `Regex.Yields.of_outcome`: the way of a search has a good end
* `Regex.Searcher.isSome_exec`: a search from the start
* `Regex.Searcher.exists_make_test_iff`: the first search of a new searcher
-/

namespace FieldValidation

namespace Regex

/-- A search succeeds on a way. -/
inductive Ends (s : Subject) : Configuration → Way → Prop
  | found {way : Way} {stack : List Choice} (h : way.tasks = []) : Ends s ⟨some way, stack⟩ way
  | step {config next : Configuration} {way : Way} (h : config.step s = .ok next)
      (hnext : Ends s next way) : Ends s config way

variable {s : Subject} {config next : Configuration} {way : Way}

/-- A search succeeds when nothing is left to do. -/
theorem step_eq_error_true_iff :
    config.step s = .error true ↔ ∃ way, config.way = some way ∧ way.tasks = [] := by
  obtain ⟨_ | ⟨tasks, place, captures⟩, stack⟩ := config
  · simp only [Configuration.step, reduceCtorEq, false_and, exists_false, iff_false]
    split <;> simp
  · cases tasks with
    | nil => exact iff_of_true rfl ⟨_, rfl, rfl⟩
    | cons task tasks =>
      refine iff_of_false ?_ (by simp)
      cases task with
      | endRound =>
        simp only [Configuration.step]
        split <;> simp
      | endLook =>
        simp only [Configuration.step]
        split <;> simp
      | _ => simp [Configuration.step]

/-- There is a way just where the search succeeds. -/
theorem isSome_outcome (steps : Nat) (config : Configuration) :
    (config.outcome s steps).isSome = config.run s steps := by
  induction steps generalizing config with
  | zero => rfl
  | succ steps ih =>
    rw [Configuration.outcome, Configuration.run]
    cases hstep : config.step s with
    | ok next => exact ih next
    | error found =>
      cases found with
      | false => rfl
      | true =>
        obtain ⟨way, hway, -⟩ := step_eq_error_true_iff.mp hstep
        simp [hway]

/-- The way of a search is one on which it succeeds. -/
theorem ends_of_outcome {steps : Nat} (h : config.outcome s steps = some way) :
    Ends s config way := by
  induction steps generalizing config with
  | zero => cases h
  | succ steps ih =>
    rw [Configuration.outcome] at h
    cases hstep : config.step s with
    | ok next =>
      rw [hstep] at h
      exact .step hstep (ih h)
    | error found =>
      rw [hstep] at h
      cases found with
      | false => cases h
      | true =>
        obtain ⟨way', hway, htasks⟩ := step_eq_error_true_iff.mp hstep
        obtain rfl : way' = way := Option.some.inj (hway.symm.trans h)
        obtain ⟨_, stack⟩ := config
        subst hway
        exact .found htasks

/-- A search that goes on succeeds where it goes on to. -/
theorem Ends.of_step (h : Ends s config way) (hstep : config.step s = .ok next) :
    Ends s next way := by
  cases h with
  | found htasks =>
    rw [step_eq_error_true_iff.mpr ⟨_, rfl, htasks⟩] at hstep
    cases hstep
  | step h hnext =>
    obtain rfl := Except.ok.inj (h.symm.trans hstep)
    exact hnext

/-! ## What is left to do -/

/-- Where what is left to do from a place succeeds, with these texts kept so far, the end is good;
otherwise one of the ways on the stack succeeds. -/
def Yields (s : Subject) (tasks : List Task) (place : Nat) (captures : Captures)
    (good : Way → Prop) : Prop :=
  ∀ ⦃stack : List Choice⦄ ⦃final : Way⦄,
    Ends s ⟨some ⟨tasks, place, captures⟩, stack⟩ final → good final ∨ Ends s ⟨none, stack⟩ final

/-- With no other way on the stack, the way of a search has a good end. -/
theorem Yields.of_outcome {tasks : List Task} {place : Nat} {captures : Captures}
    {good : Way → Prop} {steps : Nat} (h : Yields s tasks place captures good)
    (hway : Configuration.outcome s steps ⟨some ⟨tasks, place, captures⟩, []⟩ = some way) :
    good way := by
  rcases h (ends_of_outcome hway) with hgood | hempty
  · exact hgood
  · cases hempty with
    | step h => cases h

section Yields

variable {tasks tasks' first second : List Task} {place place' : Nat}
  {captures captures' captures'' : Captures} {good : Way → Prop}

theorem yields_nil (h : good ⟨[], place, captures⟩) : Yields s [] place captures good := by
  intro stack final hends
  cases hends with
  | found => exact .inl h
  | step h => cases h

theorem Yields.of_step (h : Yields s tasks' place' captures' good)
    (hstep : ∀ stack, Configuration.step s ⟨some ⟨tasks, place, captures⟩, stack⟩ =
      .ok ⟨some ⟨tasks', place', captures'⟩, stack⟩) : Yields s tasks place captures good :=
  fun stack _ hends => h (hends.of_step (hstep stack))

/-- A step that fails leads to no end. -/
theorem yields_of_failure
    (hstep : ∀ stack, Configuration.step s ⟨some ⟨tasks, place, captures⟩, stack⟩ =
      .ok ⟨none, stack⟩) : Yields s tasks place captures good :=
  fun stack _ hends => .inr (hends.of_step (hstep stack))

/-- Of two ways the second one is taken up when the first one has failed. -/
theorem Yields.of_choice (h : Yields s first place captures' good)
    (h' : Yields s second place captures'' good)
    (hstep : ∀ stack, Configuration.step s ⟨some ⟨tasks, place, captures⟩, stack⟩ =
      .ok ⟨some ⟨first, place, captures'⟩, .resume ⟨second, place, captures''⟩ :: stack⟩) :
    Yields s tasks place captures good := by
  intro stack final hends
  rcases h (hends.of_step (hstep stack)) with hgood | hsecond
  · exact .inl hgood
  · exact h' (hsecond.of_step rfl)

/-! ## The rules -/

variable {set : CharacterSet} {a b body : Node} {before rest : List Nat}

theorem yields_empty (h : Yields s tasks place captures good) :
    Yields s (.node .empty true :: tasks) place captures good :=
  h.of_step fun _ => rfl

theorem yields_sequence
    (h : Yields s (.node a true :: .node b true :: tasks) place captures good) :
    Yields s (.node (.sequence a b) true :: tasks) place captures good :=
  h.of_step fun _ => rfl

theorem yields_capture {index : Nat}
    (h : Yields s (.node body true :: .keep index place :: tasks) place captures good) :
    Yields s (.node (.capture index body) true :: tasks) place captures good :=
  h.of_step fun _ => rfl

/-- The text of a group lies between the place where the group begins and the one where it ends. -/
theorem yields_keep {index start : Nat} (hle : start ≤ place)
    (h : Yields s tasks place (captures.set index (some (start, place))) good) :
    Yields s (.keep index start :: tasks) place captures good :=
  h.of_step fun _ => by simp only [Configuration.step, Nat.min_eq_left hle, Nat.max_eq_right hle]

theorem yields_anchor {anchor : Anchor}
    (h : s.isAt place anchor = true → Yields s tasks place captures good) :
    Yields s (.node (.anchor anchor) true :: tasks) place captures good := by
  by_cases hat : s.isAt place anchor = true
  · apply (h hat).of_step
    simp [Configuration.step, Configuration.enter, hat]
  · apply yields_of_failure
    simp [Configuration.step, Configuration.enter, hat]

theorem yields_characters (hchars : s.characters.toList = before ++ rest)
    (h : ∀ c after, rest = c :: after → set.has c = true →
      Yields s tasks (before ++ [c]).length captures good) :
    Yields s (.node (.characters set) true :: tasks) before.length captures good := by
  have hnext := next?_of_toList hchars
  cases rest with
  | nil =>
    apply yields_of_failure
    simp [Configuration.step, Configuration.enter, hnext]
  | cons c after =>
    by_cases hc : set.has c = true
    · apply (h c after rfl hc).of_step
      simp [Configuration.step, Configuration.enter, hnext, hc]
    · apply yields_of_failure
      simp [Configuration.step, Configuration.enter, hnext, hc]

/-- Forgetting no group changes nothing. -/
theorem forget_self (captures : Captures) (group : Nat) :
    forget captures group group = captures := by
  apply List.ext_getElem
  · simp [forget]
  · intro i hi hi'
    have hnone : ¬ (group ≤ i ∧ i < group) := by omega
    simp [forget, hnone]

/-- The rounds of a run are left after any number of characters of the set. The induction is on what
is left of the text: every further round takes a character of it. -/
theorem yields_again {group : Nat} (hchars : s.characters.toList = before ++ rest)
    (h : ∀ x after, rest = x ++ after → (∀ c ∈ x, set.has c = true) →
      Yields s tasks (before ++ x).length captures good) :
    Yields s (.again ⟨.characters set, 0, none, true, group, group⟩ true :: tasks) before.length
      captures good := by
  induction rest generalizing before with
  | nil =>
    have hout := h [] [] rfl nofun
    rw [List.append_nil] at hout
    refine (yields_characters hchars ?_).of_choice hout fun _ => rfl
    intro c after hrest
    cases hrest
  | cons c rest ih =>
    have hout := h [] (c :: rest) rfl nofun
    rw [List.append_nil] at hout
    refine (yields_characters hchars ?_).of_choice hout fun _ => rfl
    rintro _ _ ⟨⟩ hc
    have hplace : (before ++ [c]).length ≠ before.length := by simp
    have hnext : s.characters.toList = (before ++ [c]) ++ rest := by
      rw [hchars, List.append_assoc]
      rfl
    rw [forget_self]
    refine (ih hnext ?_).of_step ?_
    · rintro x after rfl hx
      rw [List.append_assoc]
      exact h (c :: x) after rfl (List.forall_mem_cons.mpr ⟨hc, hx⟩)
    · intro stack
      simp only [Configuration.step, and_iff_right, if_neg hplace, Option.map_none]

/-- A run of characters of a set. -/
theorem yields_run {group : Nat} (hchars : s.characters.toList = before ++ rest)
    (h : ∀ x after, rest = x ++ after → (∀ c ∈ x, set.has c = true) →
      Yields s tasks (before ++ x).length captures good) :
    Yields s (.node (.repetition (.characters set) 0 none true group group) true :: tasks)
      before.length captures good :=
  (yields_again hchars h).of_step fun _ => rfl

end Yields

/-! ## The search of a searcher -/

variable {searcher : Searcher} {steps : Nat} {t : Text}

theorem placeOfUnit_zero (characters : List Nat) : placeOfUnit characters 0 = 0 := by
  cases characters with
  | nil => rfl
  | cons c rest => exact if_pos (List.length_pos_iff.mpr (Text.ofCodePoint_ne_nil c))

namespace Searcher

theorem isSome_foundAt (steps : Nat) (regex : Regex) (t : Text) (place : Nat) :
    (foundAt steps regex t place).isSome =
      Configuration.run (regex.subject t) steps (.start regex.node regex.groupCount place) := by
  rw [foundAt, Option.isSome_map, isSome_outcome]
  rfl

/-- A searcher that is at the start, or always begins there, tries the places from the start on. -/
theorem exec_fst (h : searcher.goesOn = true → searcher.place = 0) :
    (searcher.exec steps t).1 =
      (if searcher.regex.flags.sticky then [0]
        else List.range ((charactersOf searcher.regex.flags.unicode t).length + 1)).findSome?
          (foundAt steps searcher.regex t) := by
  have hstart : (if searcher.goesOn then searcher.place else 0) = 0 := by
    split
    · exact h ‹_›
    · rfl
  rw [exec]
  simp only [hstart, placeOfUnit_zero, Nat.not_lt_zero, if_false, List.drop_zero]

/-- What is found is found at some place. -/
theorem exists_foundAt {found : Found} (h : searcher.goesOn = true → searcher.place = 0)
    (hfound : (searcher.exec steps t).1 = some found) :
    ∃ place, foundAt steps searcher.regex t place = some found := by
  rw [exec_fst h] at hfound
  obtain ⟨place, -, hplace⟩ := List.exists_of_findSome?_eq_some hfound
  exact ⟨place, hplace⟩

/-- Such a searcher finds something just where its expression does. -/
theorem isSome_exec (h : searcher.goesOn = true → searcher.place = 0) :
    (searcher.exec steps t).1.isSome = searcher.regex.testWithin steps t := by
  rw [exec_fst h, List.isSome_findSome?, testWithin]
  simp only [isSome_foundAt]
  split
  · simp
  · simp [subject]

theorem test_fst (h : searcher.goesOn = true → searcher.place = 0) :
    (searcher.test t).1 = searcher.regex.test t := by
  rw [test_eq_testWithin]
  exact isSome_exec h

/-- A searcher that does not go on from its last search is not changed by a search. -/
theorem exec_snd (h : searcher.goesOn = false) : (searcher.exec steps t).2 = searcher := by
  simp [exec, h]

/-- There is a new searcher just where there is an expression; its first search finds something just
where the expression does. -/
theorem exists_make_test_iff {source flags : Text} :
    (∃ searcher, make source flags = .ok searcher ∧ (searcher.test t).1 = true) ↔
      ∃ regex, compile? source flags = some regex ∧ regex.test t = true := by
  unfold make
  cases compile? source flags with
  | none => simp
  | some regex =>
    constructor
    · rintro ⟨searcher, ⟨⟩, htest⟩
      rw [test_fst fun _ => rfl] at htest
      exact ⟨regex, rfl, htest⟩
    · rintro ⟨_, ⟨⟩, htest⟩
      exact ⟨_, rfl, by rwa [test_fst fun _ => rfl]⟩

end Searcher

end Regex

end FieldValidation
