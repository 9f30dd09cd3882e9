import FieldValidation.Rule.FieldRule

/-!
# Traced validation

A validation gives a result or fails, and it leaves a trace: the value rules it has run, each with
the field and the value it was given.

## Main definitions

* `Ran`: one run of a value rule
* `Traced`: a result with the runs it took

## Main results

* `Traced.bind_of_ok`, `Traced.bind_of_error`: a validation followed by another
-/

namespace FieldValidation

/-- One run of a value rule. -/
structure Ran where
  field : Text
  rule : FieldRule
  value : Value

/-- A result, or a failure, with the runs it took. -/
structure Traced (α : Type) where
  result : Except Failure α
  ran : List Ran

namespace Traced

variable {α β : Type}

/-- A result without runs. -/
def ofExcept (result : Except Failure α) : Traced α := ⟨result, []⟩

/-- A validation followed by another that depends on its result; after a failure nothing more is
run. -/
def andThen (first : Traced α) (next : α → Traced β) : Traced β :=
  match first.result with
  | .ok a => ⟨(next a).result, first.ran ++ (next a).ran⟩
  | .error failure => ⟨.error failure, first.ran⟩

instance : Monad Traced where
  pure a := ofExcept (.ok a)
  bind := andThen

@[simp] theorem result_ofExcept (r : Except Failure α) : (ofExcept r).result = r := rfl

@[simp] theorem result_pure (a : α) : (pure a : Traced α).result = .ok a := rfl

/-- After a result the next validation is run, and its runs follow. -/
theorem bind_of_ok {first : Traced α} {a : α} (h : first.result = .ok a)
    (next : α → Traced β) :
    first >>= next = ⟨(next a).result, first.ran ++ (next a).ran⟩ := by
  show first.andThen next = _
  simp only [andThen, h]

/-- After a failure nothing more is run. -/
theorem bind_of_error {first : Traced α} {failure : Failure} (h : first.result = .error failure)
    (next : α → Traced β) : first >>= next = ⟨.error failure, first.ran⟩ := by
  show first.andThen next = _
  simp only [andThen, h]

@[simp] theorem ofExcept_ok_bind (a : α) (next : α → Traced β) :
    ofExcept (.ok a) >>= next = next a := rfl

@[simp] theorem result_bind (first : Traced α) (next : α → Traced β) :
    (first >>= next).result = first.result >>= fun a => (next a).result := by
  cases h : first.result with
  | ok a => rw [bind_of_ok h]; rfl
  | error failure => rw [bind_of_error h]; rfl

/-- What is run is run by the first validation or, after a result, by the next. -/
theorem mem_ran_bind {first : Traced α} {next : α → Traced β} {run : Ran}
    (h : run ∈ (first >>= next).ran) :
    run ∈ first.ran ∨ ∃ a, first.result = .ok a ∧ run ∈ (next a).ran := by
  cases hfirst : first.result with
  | ok a =>
    rw [bind_of_ok hfirst] at h
    exact (List.mem_append.mp h).imp_right fun hrun => ⟨a, rfl, hrun⟩
  | error failure =>
    rw [bind_of_error hfirst] at h
    exact Or.inl h

end Traced

end FieldValidation
