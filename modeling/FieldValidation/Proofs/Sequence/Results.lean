import Mathlib.Data.List.Forall2

/-!
# Results

What is known of steps that come to a result or a failure, one after the other, and of a list each
of whose members is turned into a result or a failure, the first failure ending it.

## Main results

* `mapError_eq_ok_iff`, `bind_eq_ok_iff`: a step whose failures are changed, and one after another
* `mapM_eq_ok_iff`, `mapM_eq_some_iff`: the results are those of the members, one by one
* `exists_of_mem_mapM`: each result comes from a member
* `exists_mapM_eq_ok`: there are results where each member has one
* `exists_of_mapM_eq_error`: the failure is that of a member
* `map_eq_of_forall₂`, `map_eq_of_mapM`: what results keep of their members
* `mapM_map_result`: results that are changed afterwards
-/

namespace FieldValidation

variable {α β γ ε ε' : Type}

/-- Changing a failure does not make a result of it. -/
theorem mapError_eq_ok_iff {f : ε → ε'} {result : Except ε α} {a : α} :
    result.mapError f = .ok a ↔ result = .ok a := by
  cases result with
  | ok b => exact ⟨fun h => congrArg Except.ok (Except.ok.inj h), fun h => h ▸ rfl⟩
  | error e => exact ⟨nofun, nofun⟩

/-- A step after another has a result where both have one. -/
theorem bind_eq_ok_iff {first : Except ε α} {next : α → Except ε β} {y : β} :
    (first >>= next) = .ok y ↔ ∃ x, first = .ok x ∧ next x = .ok y := by
  cases first with
  | error e => exact ⟨nofun, by rintro ⟨_, ⟨⟩, _⟩⟩
  | ok x =>
    constructor
    · exact fun h => ⟨x, rfl, h⟩
    · rintro ⟨_, ⟨⟩, h⟩
      exact h

/-! ## Pairs -/

/-- Each member on the left is paired with one on the right. -/
theorem exists_mem_of_forall₂ {R : α → β → Prop} {xs : List α} {ys : List β}
    (h : List.Forall₂ R xs ys) {x : α} (hx : x ∈ xs) : ∃ y ∈ ys, R x y := by
  induction h with
  | nil => cases hx
  | @cons first y rest others hfirst _ ih =>
    rcases List.mem_cons.mp hx with rfl | hmem
    · exact ⟨y, List.mem_cons_self, hfirst⟩
    · obtain ⟨other, hother, hpair⟩ := ih hmem
      exact ⟨other, List.mem_cons_of_mem _ hother, hpair⟩

/-- What each of some pairs has in common, the lists have in common in their order. -/
theorem map_eq_of_forall₂ {R : α → β → Prop} {kept : β → γ} {given : α → γ}
    (hkept : ∀ x y, R x y → kept y = given x) {xs : List α} {ys : List β}
    (h : List.Forall₂ R xs ys) : ys.map kept = xs.map given := by
  rw [← List.forall₂_eq_eq_eq, List.forall₂_map_left_iff, List.forall₂_map_right_iff]
  exact h.flip.imp fun y x hxy => hkept x y hxy

/-- Where each member has a value, keeping those that have one keeps them all. -/
theorem filterMap_eq_of_forall₂ {f : α → Option β} {xs : List α} {ys : List β}
    (h : List.Forall₂ (fun x y => f x = some y) xs ys) : xs.filterMap f = ys := by
  induction h with
  | nil => rfl
  | cons hfirst _ ih => rw [List.filterMap_cons_some hfirst, ih]

/-! ## Going through a list -/

/-- There are results where they are those of the members, one by one. -/
theorem mapM_eq_ok_iff {f : α → Except ε β} {xs : List α} {ys : List β} :
    xs.mapM f = .ok ys ↔ List.Forall₂ (fun x y => f x = .ok y) xs ys := by
  induction xs generalizing ys with
  | nil =>
    rw [List.forall₂_nil_left_iff]
    exact ⟨fun h => (Except.ok.inj h).symm, fun h => h ▸ rfl⟩
  | cons x rest ih =>
    rw [List.mapM_cons, List.forall₂_cons_left_iff]
    simp only [bind_eq_ok_iff, ih]
    constructor
    · rintro ⟨first, hx, others, hrest, ⟨⟩⟩
      exact ⟨first, others, hx, hrest, rfl⟩
    · rintro ⟨first, others, hx, hrest, rfl⟩
      exact ⟨first, hx, others, hrest, rfl⟩

/-- There are values where they are those of the members, one by one. -/
theorem mapM_eq_some_iff {f : α → Option β} {xs : List α} {ys : List β} :
    xs.mapM f = some ys ↔ List.Forall₂ (fun x y => f x = some y) xs ys := by
  induction xs generalizing ys with
  | nil =>
    rw [List.forall₂_nil_left_iff]
    exact ⟨fun h => (Option.some.inj h).symm, fun h => h ▸ rfl⟩
  | cons x rest ih =>
    rw [List.mapM_cons, List.forall₂_cons_left_iff]
    simp only [Option.bind_eq_bind, Option.bind_eq_some_iff, ih]
    constructor
    · rintro ⟨first, hx, others, hrest, ⟨⟩⟩
      exact ⟨first, others, hx, hrest, rfl⟩
    · rintro ⟨first, others, hx, hrest, rfl⟩
      exact ⟨first, hx, others, hrest, rfl⟩

/-- Each result comes from a member of the list. -/
theorem exists_of_mem_mapM {f : α → Except ε β} {xs : List α} {ys : List β}
    (h : xs.mapM f = .ok ys) {y : β} (hy : y ∈ ys) : ∃ x ∈ xs, f x = .ok y :=
  exists_mem_of_forall₂ (mapM_eq_ok_iff.mp h).flip hy

/-- Where each member has a result, there are results of them all. -/
theorem exists_mapM_eq_ok {f : α → Except ε β} {xs : List α} (h : ∀ x ∈ xs, ∃ y, f x = .ok y) :
    ∃ ys, xs.mapM f = .ok ys := by
  induction xs with
  | nil => exact ⟨[], rfl⟩
  | cons x rest ih =>
    obtain ⟨hx, hrest⟩ := List.forall_mem_cons.mp h
    obtain ⟨y, hy⟩ := hx
    obtain ⟨ys, hys⟩ := ih hrest
    exact ⟨y :: ys, by rw [List.mapM_cons, hy, hys]; rfl⟩

/-- Where there are results of them all, that of each member is among them. -/
theorem exists_mem_of_mapM_eq_ok {f : α → Except ε β} {xs : List α} {ys : List β}
    (h : xs.mapM f = .ok ys) {x : α} (hx : x ∈ xs) : ∃ y ∈ ys, f x = .ok y :=
  exists_mem_of_forall₂ (mapM_eq_ok_iff.mp h) hx

/-- Where there are results of them all, each member has one. -/
theorem exists_of_mapM_eq_ok {f : α → Except ε β} {xs : List α} {ys : List β}
    (h : xs.mapM f = .ok ys) {x : α} (hx : x ∈ xs) : ∃ y, f x = .ok y := by
  obtain ⟨y, _, hy⟩ := exists_mem_of_mapM_eq_ok h hx
  exact ⟨y, hy⟩

/-- What there are no results for is the failure of a member. -/
theorem exists_of_mapM_eq_error {f : α → Except ε β} {xs : List α} {e : ε}
    (h : xs.mapM f = .error e) : ∃ x ∈ xs, f x = .error e := by
  induction xs with
  | nil => cases h
  | cons x rest ih =>
    rw [List.mapM_cons] at h
    cases hx : f x with
    | error failure =>
      rw [hx] at h
      cases h
      exact ⟨x, List.mem_cons_self, hx⟩
    | ok y =>
      cases hrest : rest.mapM f with
      | error failure =>
        rw [hx, hrest] at h
        cases h
        obtain ⟨other, hmem, hother⟩ := ih hrest
        exact ⟨other, List.mem_cons_of_mem _ hmem, hother⟩
      | ok ys => rw [hx, hrest] at h; cases h

/-- Where the result of each member is known, so are the results of them all. -/
theorem mapM_eq_ok_map {f : α → Except ε β} {g : α → β} {xs : List α}
    (h : ∀ x ∈ xs, f x = .ok (g x)) : xs.mapM f = .ok (xs.map g) := by
  rw [mapM_eq_ok_iff, List.forall₂_map_right_iff, List.forall₂_same]
  exact h

/-- Where each result is also one of another function, so are the results of them all. -/
theorem mapM_eq_ok_of_imp {f g : α → Except ε β} (h : ∀ x y, f x = .ok y → g x = .ok y)
    {xs : List α} {ys : List β} (hys : xs.mapM f = .ok ys) : xs.mapM g = .ok ys :=
  mapM_eq_ok_iff.mpr ((mapM_eq_ok_iff.mp hys).imp h)

/-- What each result keeps of its member, the results keep of the members in their order. -/
theorem map_eq_of_mapM {f : α → Except ε β} {kept : β → γ} {given : α → γ}
    (hkept : ∀ x y, f x = .ok y → kept y = given x) {xs : List α} {ys : List β}
    (h : xs.mapM f = .ok ys) : ys.map kept = xs.map given :=
  map_eq_of_forall₂ hkept (mapM_eq_ok_iff.mp h)

/-- Changing each result is changing the results. -/
theorem mapM_map_result (f : α → Except ε β) (g : β → γ) (xs : List α) :
    xs.mapM (fun x => (f x).map g) = (xs.mapM f).map (List.map g) := by
  induction xs with
  | nil => rfl
  | cons x rest ih =>
    rw [List.mapM_cons, List.mapM_cons, ih]
    cases f x with
    | error e => rfl
    | ok first => cases rest.mapM f <;> rfl

end FieldValidation
