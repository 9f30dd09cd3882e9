import FieldValidation.Proofs.Failure.Kinds
import FieldValidation.Proofs.Sequence.Results
import FieldValidation.Rule.FieldRule

/-!
# What a rule lets pass

Whether a rule lets a value pass is settled before any words are looked for: a rule comes to its
verdict first, and only a verdict that is no success has to be told. So running a rule succeeds in
every wording or in none, whatever texts the application gives.

## Main definitions

* `Rule.Accepts`, `FieldRule.Accepts`: a rule lets a value pass

## Main results

* `Verdict.tell_eq_ok_iff`: telling a verdict succeeds where it is a success
* `FieldRule.validate_eq_ok_iff`: running a rule succeeds where it lets the value pass
-/

namespace FieldValidation

/-- Telling a verdict is a success only where the verdict is one. -/
theorem Verdict.tell_eq_ok_iff {wording : Wording} {field : FieldId} {verdict : Verdict} :
    verdict.tell wording field = .ok () ↔ verdict = .passes := by
  cases verdict with
  | passes => exact ⟨fun _ => rfl, fun _ => rfl⟩
  | violated | notAValueRule | unusableParameter =>
    exact ⟨fun h => absurd h Wording.tell_ne_ok, fun h => by cases h⟩

namespace Rule

/-- A rule lets the value of a field pass under a parameter. -/
def Accepts (checks : Checks) (field : FieldId) (value parameter : Value) : Rule → Prop
  | .builtin rule => rule.verdict checks value parameter = .passes
  | .application rule => rule.validate checks field value parameter = .ok ()

theorem validate_eq_ok_iff {checks : Checks} {wording : Wording} {field : FieldId}
    {value parameter : Value} {rule : Rule} :
    rule.validate checks wording field value parameter = .ok () ↔
      rule.Accepts checks field value parameter := by
  cases rule with
  | builtin rule => exact Verdict.tell_eq_ok_iff
  | application rule => exact Iff.rfl

end Rule

variable {registry : Registry} {wording : Wording} {field : FieldId} {value : Value}

/-- A name finds a rule, or that it does not is told. -/
theorem Registry.get?_eq_ok_iff {name : Text} {found : Option Rule} :
    registry.get? wording name = .ok found ↔ name ≠ [] ∧ found = registry.find? name := by
  unfold get?
  by_cases hname : name = []
  · simp only [hname, if_true, ne_eq, not_true, false_and, iff_false]
    exact Wording.tell_ne_ok
  · simp only [hname, if_false, ne_eq, not_false_eq_true, true_and]
    exact ⟨fun h => (Except.ok.inj h).symm, fun h => h ▸ rfl⟩

namespace FieldRule

/-- A rule lets the value of a field pass: the registry has a rule of its name that does, or the
predicate gives any answer but `false`. -/
def Accepts (registry : Registry) (field : FieldId) (value : Value) : FieldRule → Prop
  | .named rule =>
    rule.name ≠ [] ∧ ∃ found, registry.find? rule.name = some found ∧
      found.Accepts registry.checks field value rule.parameter
  | .predicate p => ∃ answer, p.answer value = .ok answer ∧ answer ≠ .bool false

end FieldRule

theorem NamedRule.validate_eq_ok_iff {rule : NamedRule} :
    rule.validate registry wording field value = .ok () ↔
      (FieldRule.named rule).Accepts registry field value := by
  unfold validate FieldRule.Accepts
  cases hget : registry.get? wording rule.name with
  | error failure =>
    refine ⟨nofun, ?_⟩
    rintro ⟨hname, found, hfind, -⟩
    rw [Registry.get?_eq_ok_iff.mpr ⟨hname, hfind.symm⟩] at hget
    cases hget
  | ok found =>
    obtain ⟨hname, rfl⟩ := Registry.get?_eq_ok_iff.mp hget
    cases hfind : registry.find? rule.name with
    | none =>
      refine ⟨fun h => absurd h Wording.tell_ne_ok, ?_⟩
      rintro ⟨-, found, hfound, -⟩
      rw [hfind] at hfound
      cases hfound
    | some found =>
      refine mapError_eq_ok_iff.trans (Rule.validate_eq_ok_iff.trans ?_)
      constructor
      · exact fun h => ⟨hname, found, hfind, h⟩
      · rintro ⟨-, found', hfound, h⟩
        obtain rfl := Option.some.inj (hfind.symm.trans hfound)
        exact h

theorem Predicate.validate_eq_ok_iff {p : Predicate} :
    p.validate wording field value = .ok () ↔
      (FieldRule.predicate p).Accepts registry field value := by
  unfold validate FieldRule.Accepts
  cases hanswer : p.answer value with
  | error failure =>
    refine ⟨nofun, ?_⟩
    rintro ⟨answer, h, -⟩
    rw [hanswer] at h
    cases h
  | ok answer =>
    by_cases hfalse : answer = .bool false
    · subst hfalse
      refine ⟨fun h => absurd h Wording.tell_ne_ok, ?_⟩
      rintro ⟨answer, h, hpass⟩
      exact absurd (Except.ok.inj (hanswer.symm.trans h)).symm hpass
    · refine ⟨fun _ => ⟨answer, hanswer, hfalse⟩, fun _ => ?_⟩
      simp only [bind, Except.bind]
      rfl

/-- Running a rule succeeds just where it lets the value pass, in any wording. -/
theorem FieldRule.validate_eq_ok_iff {rule : FieldRule} :
    rule.validate registry wording field value = .ok () ↔ rule.Accepts registry field value := by
  cases rule with
  | named rule => exact NamedRule.validate_eq_ok_iff
  | predicate p => exact Predicate.validate_eq_ok_iff

end FieldValidation
