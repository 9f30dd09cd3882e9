import FieldValidation.Text.Basic

/-!
# Keyed entries

A record is a list of entries in the order in which they are enumerated. Keys that are list
positions come first, by size; the others follow in the order in which they were first put. A
key put again keeps its place and takes the new value. An entry put under a new key goes before the
first entry that it precedes, and it precedes all that follow, so the order is kept.

## Main definitions

* `positionOfKey?`: the list position that a key spells
* `reservedKey`: the key that no assignment makes an entry under
* `Entries.put`, `Entries.ofPairs`: adding entries
* `Entries.find?`, `Entries.erase`: looking up and removing
* `Entries.Enumerated`: entries as they are enumerated

## Main results

* `Entries.Enumerated.put`, `Entries.enumerated_ofPairs`: entries that are put are enumerated
-/

namespace FieldValidation

/-- The list position that a key spells: a decimal numeral below `2 ^ 32 - 1`, without leading
zeros. -/
def positionOfKey? (key : Text) : Option Nat :=
  if key.isEmpty || !key.all CodeUnit.isDigit then none
  else if key.length > 1 ∧ key.head? = some (unit '0') then none
  else
    let n := Text.decimalValue key
    if n < 0xFFFFFFFF then some n else none

/-- The key that no assignment makes an entry under. -/
def reservedKey : Text := "__proto__"

/-- Entries under text keys, in enumeration order. -/
abbrev Entries (α : Type) := List (Text × α)

namespace Entries

variable {α β : Type}

/-- The keys, in order. -/
def keys (entries : Entries α) : List Text := entries.map (·.1)

/-- The value under a key. -/
def find? (entries : Entries α) (key : Text) : Option α :=
  match entries with
  | [] => none
  | (k, v) :: rest => if k = key then some v else find? rest key

/-- Whether there is an entry under a key. -/
def contains (entries : Entries α) (key : Text) : Bool := (find? entries key).isSome

/-- Whether an entry under `key` is enumerated before one under `other`, both being new: a
position comes before every larger position and before every other key. -/
def precedes (key other : Text) : Bool :=
  match positionOfKey? key, positionOfKey? other with
  | some n, some m => n < m
  | some _, none => true
  | none, _ => false

/-- The entries with the value under a present key replaced. -/
def replace (entries : Entries α) (key : Text) (value : α) : Entries α :=
  entries.map fun (k, v) => if k = key then (k, value) else (k, v)

/-- The entries with a new key added at its place. -/
def insertNew (entries : Entries α) (key : Text) (value : α) : Entries α :=
  match entries with
  | [] => [(key, value)]
  | (k, v) :: rest =>
    if precedes key k then (key, value) :: (k, v) :: rest else (k, v) :: insertNew rest key value

/-- The entries with a value put under a key. -/
def put (entries : Entries α) (key : Text) (value : α) : Entries α :=
  if contains entries key then replace entries key value else insertNew entries key value

/-- The entries that a sequence of pairs makes, put one after the other. -/
def ofPairs (pairs : List (Text × α)) : Entries α :=
  pairs.foldl (fun entries (key, value) => put entries key value) []

/-- The entries without the one under a key. -/
def erase (entries : Entries α) (key : Text) : Entries α := entries.filter (·.1 ≠ key)

/-- The entries with every value changed by `f`. -/
def mapValues (f : α → β) (entries : Entries α) : Entries β := entries.map fun (k, v) => (k, f v)

section Enumeration

variable {entries : Entries α} {key other third : Text} {value : α}

/-! ## Keys -/

theorem keys_cons (entry : Text × α) (rest : Entries α) :
    keys (entry :: rest) = entry.1 :: keys rest := rfl

theorem keys_concat (init : Entries α) (entry : Text × α) :
    keys (init ++ [entry]) = keys init ++ [entry.1] := List.map_append

theorem contains_iff : contains entries key = true ↔ key ∈ keys entries := by
  induction entries with
  | nil => simp [contains, find?, keys]
  | cons entry rest ih =>
    rw [keys_cons, List.mem_cons, ← ih, contains, contains, find?]
    split
    · next heq => simp [heq]
    · next hne => simp [Ne.symm hne]

@[simp] theorem keys_replace : keys (replace entries key value) = keys entries := by
  unfold keys replace
  rw [List.map_map]
  apply List.map_congr_left
  rintro ⟨k, v⟩ _
  simp only [Function.comp_apply]
  split <;> rfl

theorem mem_keys_insertNew :
    other ∈ keys (insertNew entries key value) ↔ other = key ∨ other ∈ keys entries := by
  induction entries with
  | nil => simp [insertNew, keys]
  | cons entry rest ih =>
    unfold insertNew
    split
    · simp [keys]
    · rw [keys_cons, keys_cons, List.mem_cons, List.mem_cons, ih]
      exact or_left_comm

theorem mem_keys_put :
    other ∈ keys (put entries key value) ↔ other = key ∨ other ∈ keys entries := by
  unfold put
  split
  · next hthere =>
    rw [keys_replace]
    constructor
    · exact .inr
    · rintro (rfl | hmem)
      · exact contains_iff.mp hthere
      · exact hmem
  · exact mem_keys_insertNew

/-! ## The order of keys -/

/-- A key that precedes another precedes all that need not come before that one. -/
theorem precedes_of_not_precedes (h : precedes key other = true)
    (hlater : precedes third other = false) : precedes key third = true := by
  unfold precedes at h hlater ⊢
  cases hkey : positionOfKey? key <;> cases hother : positionOfKey? other <;>
    cases hthird : positionOfKey? third <;> simp_all
  omega

theorem precedes_asymm (h : precedes key other = true) : precedes other key = false := by
  unfold precedes at h ⊢
  cases hkey : positionOfKey? key <;> cases hother : positionOfKey? other <;> simp_all
  omega

/-- A key that is no position precedes no other. -/
theorem precedes_of_not_position (h : positionOfKey? key = none) : precedes key other = false := by
  rw [precedes, h]

theorem isDigit_of_position {n : Nat} (h : positionOfKey? key = some n) :
    ∀ u ∈ key, u.isDigit = true := by
  unfold positionOfKey? at h
  split at h
  · cases h
  · next hdigits =>
    rw [Bool.not_eq_true, Bool.or_eq_false_iff, Bool.not_eq_false'] at hdigits
    exact List.all_eq_true.mp hdigits.2

/-! ## Entries as they are enumerated -/

/-- Keys none of which precedes an earlier one. -/
def Ordered (keys : List Text) : Prop := keys.Pairwise fun k l => precedes l k = false

/-- Entries as they are enumerated: each key is there once, and in its place. -/
structure Enumerated (entries : Entries α) : Prop where
  distinct : (keys entries).Nodup
  ordered : Ordered (keys entries)

/-- A key that precedes the first one precedes all of them. -/
theorem Ordered.precedes_all {rest : List Text} (h : Ordered (other :: rest))
    (hfirst : precedes key other = true) : ∀ k ∈ other :: rest, precedes key k = true := by
  intro k hmem
  rcases List.mem_cons.mp hmem with rfl | hmem
  · exact hfirst
  · exact precedes_of_not_precedes hfirst (List.rel_of_pairwise_cons h hmem)

theorem ordered_insertNew (h : Ordered (keys entries)) :
    Ordered (keys (insertNew entries key value)) := by
  induction entries with
  | nil => exact List.pairwise_singleton _ _
  | cons entry rest ih =>
    unfold insertNew
    split
    · next hbefore =>
      refine List.pairwise_cons.mpr ⟨fun k hmem => ?_, h⟩
      exact precedes_asymm (h.precedes_all hbefore k hmem)
    · next hafter =>
      obtain ⟨hfirst, hrest⟩ := List.pairwise_cons.mp h
      refine List.pairwise_cons.mpr ⟨fun k hmem => ?_, ih hrest⟩
      rcases mem_keys_insertNew.mp hmem with rfl | hold
      · exact Bool.eq_false_iff.mpr hafter
      · exact hfirst k hold

theorem nodup_insertNew (h : (keys entries).Nodup) (hnew : key ∉ keys entries) :
    (keys (insertNew entries key value)).Nodup := by
  induction entries with
  | nil => simp [insertNew, keys]
  | cons entry rest ih =>
    unfold insertNew
    split
    · exact List.nodup_cons.mpr ⟨hnew, h⟩
    · rw [keys_cons] at h hnew ⊢
      obtain ⟨hfirst, hrest⟩ := List.nodup_cons.mp h
      refine List.nodup_cons.mpr ⟨?_, ih hrest (List.not_mem_of_not_mem_cons hnew)⟩
      rw [mem_keys_insertNew]
      rintro (heq | hmem)
      · exact hnew (heq ▸ List.mem_cons_self)
      · exact hfirst hmem

/-- What is put is put in its place. -/
theorem Enumerated.put (h : Enumerated entries) : Enumerated (Entries.put entries key value) := by
  unfold Entries.put
  split
  · constructor
    · rw [keys_replace]
      exact h.distinct
    · rw [keys_replace]
      exact h.ordered
  · next hnew =>
    exact ⟨nodup_insertNew h.distinct (mt contains_iff.mpr hnew), ordered_insertNew h.ordered⟩

theorem Enumerated.of_concat {entry : Text × α} (h : Enumerated (entries ++ [entry])) :
    Enumerated entries ∧ entry.1 ∉ keys entries ∧
      ∀ k ∈ keys entries, precedes entry.1 k = false := by
  obtain ⟨hdistinct, hordered⟩ := h
  rw [keys_concat] at hdistinct hordered
  obtain ⟨hnodup, -, hdisjoint⟩ := List.nodup_append.mp hdistinct
  obtain ⟨hinit, -, hlast⟩ := List.pairwise_append.mp hordered
  refine ⟨⟨hnodup, hinit⟩, ?_, fun k hk => hlast k hk entry.1 (List.mem_singleton_self _)⟩
  intro hmem
  exact hdisjoint _ hmem _ (List.mem_singleton_self _) rfl

/-- Entries put one after the other are enumerated. -/
theorem enumerated_foldl_put (pairs : List (Text × α)) (h : Enumerated entries) :
    Enumerated (pairs.foldl (fun entries (key, value) => put entries key value) entries) := by
  induction pairs generalizing entries with
  | nil => exact h
  | cons pair rest ih => exact ih h.put

theorem enumerated_ofPairs (pairs : List (Text × α)) : Enumerated (ofPairs pairs) :=
  enumerated_foldl_put pairs ⟨List.nodup_nil, .nil⟩

end Enumeration

end Entries

end FieldValidation
