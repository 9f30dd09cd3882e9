import FieldValidation.Proofs.Calendar.Rendering

/-!
# Reading the parts off a cut

The texts of a cut are read one by one. Each gives its part a number, a part that has one already
must get the same, and no part has a number that no text gives it.

## Main definitions

* `ReadOff`: the numbers of the parts are those that the texts give

## Main results

* `readOff_of_readings?`: readings are read off the texts
* `exists_readings?`: where the texts agree there are readings
* `accepts_iff`: what is asked of a text that is accepted
-/

namespace FieldValidation

namespace Calendar

/-! ## One more number -/

namespace Readings

variable {readings readings' : Readings} {part : Part} {n : Nat}

/-- After a number is given to a part, that is its number, and the others have theirs. -/
theorem lookup_of_agree? (h : readings.agree? part n = some readings') (other : Part) :
    readings'.lookup other = if other = part then some n else readings.lookup other := by
  unfold agree? at h
  cases hlookup : readings.lookup part with
  | none =>
    rw [hlookup] at h
    obtain rfl := Option.some.inj h
    rw [List.lookup_cons]
    by_cases hother : other = part
    · simp [hother]
    · rw [beq_eq_false_iff_ne.mpr hother, if_neg hother]
  | some m =>
    simp only [hlookup, Option.ite_none_right_eq_some, Option.some.injEq] at h
    obtain ⟨rfl, rfl⟩ := h
    by_cases hother : other = part
    · rw [if_pos hother, hother, hlookup]
    · rw [if_neg hother]

theorem exists_agree? (h : ∀ m, readings.lookup part = some m → m = n) :
    ∃ readings', readings.agree? part n = some readings' := by
  unfold agree?
  cases hlookup : readings.lookup part with
  | none => exact ⟨_, rfl⟩
  | some m => exact ⟨readings, if_pos (h m hlookup)⟩

/-- A number that was given is kept. -/
theorem lookup_of_agree?_of_lookup (h : readings.agree? part n = some readings') {other : Part}
    {m : Nat} (hlookup : readings.lookup other = some m) : readings'.lookup other = some m := by
  rw [lookup_of_agree? h]
  by_cases hother : other = part
  · subst hother
    unfold agree? at h
    simp only [hlookup, Option.ite_none_right_eq_some] at h
    rw [if_pos rfl, h.1]
  · rwa [if_neg hother]

end Readings

/-! ## All numbers -/

/-- The numbers of the parts are those of `before` and those that the texts give. -/
structure ReadOff (before : Readings) (texts : List (Directive × Text)) (readings : Readings) :
    Prop where
  keeps : ∀ part n, before.lookup part = some n → readings.lookup part = some n
  gives : ∀ entry ∈ texts,
    ∃ n, entry.1.read? entry.2 = some n ∧ readings.lookup entry.1.part = some n
  only : ∀ part n, readings.lookup part = some n →
    before.lookup part = some n ∨ ∃ entry ∈ texts, entry.1.part = part

variable {before readings : Readings} {texts : List (Directive × Text)}

theorem readOff_of_readings? (h : readings? before texts = some readings) :
    ReadOff before texts readings := by
  induction texts generalizing before with
  | nil =>
    obtain rfl := Option.some.inj h
    exact ⟨fun _ _ hlookup => hlookup, by simp, fun _ _ hlookup => Or.inl hlookup⟩
  | cons entry rest ih =>
    obtain ⟨d, t⟩ := entry
    simp only [readings?, Option.bind_eq_bind, Option.bind_eq_some_iff] at h
    obtain ⟨n, hread, middle, hmiddle, hrest⟩ := h
    obtain ⟨hkeeps, hgives, honly⟩ := ih hrest
    refine ⟨fun part m hlookup => ?_, ?_, fun part m hlookup => ?_⟩
    · exact hkeeps part m (Readings.lookup_of_agree?_of_lookup hmiddle hlookup)
    · refine List.forall_mem_cons.mpr ⟨⟨n, hread, hkeeps _ _ ?_⟩, hgives⟩
      rw [Readings.lookup_of_agree? hmiddle, if_pos rfl]
    · rcases honly part m hlookup with hmid | ⟨entry, hentry, hpart⟩
      · rw [Readings.lookup_of_agree? hmiddle] at hmid
        by_cases hpart : part = d.part
        · exact Or.inr ⟨(d, t), List.mem_cons_self, hpart.symm⟩
        · rw [if_neg hpart] at hmid
          exact Or.inl hmid
      · exact Or.inr ⟨entry, List.mem_cons_of_mem _ hentry, hpart⟩

/-- The parts that have a number are those that the format names. -/
theorem ReadOff.isSome_lookup_iff (h : ReadOff [] texts readings) {format : Text}
    (hfst : texts.map Prod.fst = directives format) (part : Part) :
    (readings.lookup part).isSome = true ↔ Names format part := by
  rw [Names, ← hfst]
  constructor
  · intro hsome
    obtain ⟨n, hn⟩ := Option.isSome_iff_exists.mp hsome
    rcases h.only part n hn with hnil | ⟨entry, hmem, hpart⟩
    · cases hnil
    · exact ⟨entry.1, List.mem_map_of_mem hmem, hpart⟩
  · rintro ⟨d, hd, rfl⟩
    obtain ⟨entry, hmem, rfl⟩ := List.mem_map.mp hd
    obtain ⟨n, -, hn⟩ := h.gives entry hmem
    exact Option.isSome_iff_exists.mpr ⟨n, hn⟩

/-- Where the texts give each part one number, that is the number it has. -/
theorem ReadOff.eq_of_lookup (h : ReadOff [] texts readings) {value : Part → Nat}
    (hvalue : ∀ entry ∈ texts, entry.1.read? entry.2 = some (value entry.1.part)) {part : Part}
    {n : Nat} (hlookup : readings.lookup part = some n) : n = value part := by
  rcases h.only part n hlookup with hnil | ⟨entry, hmem, rfl⟩
  · cases hnil
  · obtain ⟨m, hm, hgiven⟩ := h.gives entry hmem
    rw [hvalue entry hmem] at hm
    exact Option.some.inj (hlookup.symm.trans (hgiven.trans hm.symm))

/-- Texts that give each part the same number are read. -/
theorem exists_readings? {value : Part → Nat}
    (hread : ∀ entry ∈ texts, entry.1.read? entry.2 = some (value entry.1.part))
    (hbefore : ∀ part n, before.lookup part = some n → n = value part) :
    ∃ readings, readings? before texts = some readings := by
  induction texts generalizing before with
  | nil => exact ⟨before, rfl⟩
  | cons entry rest ih =>
    obtain ⟨d, t⟩ := entry
    obtain ⟨hfirst, hrest⟩ := List.forall_mem_cons.mp hread
    obtain ⟨middle, hmiddle⟩ := Readings.exists_agree? (hbefore d.part)
    have hvalue : ∀ part n, middle.lookup part = some n → n = value part := by
      intro part n hlookup
      rw [Readings.lookup_of_agree? hmiddle] at hlookup
      split at hlookup
      · next hpart => rw [hpart]; exact (Option.some.inj hlookup).symm
      · exact hbefore part n hlookup
    obtain ⟨readings, hreadings⟩ := ih hrest hvalue
    refine ⟨readings, ?_⟩
    simp only [readings?, Option.bind_eq_bind, hfirst, hmiddle, Option.bind_some, hreadings]

/-- A text is accepted where the letters of the format are supported, the text is cut, the parts
are read off the cut, and the day is real. -/
theorem accepts_iff {thisYear : Nat} {format text : Text} :
    accepts thisYear format text = true ↔
      ∃ pieces texts readings, Piece.parse? format = some pieces ∧
        cut? pieces text = some texts ∧ readings? [] texts = some readings ∧
          isRealDay thisYear readings = true := by
  unfold accepts
  cases hparse : Piece.parse? format with
  | none => simp
  | some pieces =>
    rw [Option.bind_some]
    cases hcut : cut? pieces text with
    | none => simp [hcut]
    | some texts => cases hread : readings? [] texts <;> simp [hcut, hread]

end Calendar

end FieldValidation
