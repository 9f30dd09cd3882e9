import FieldValidation.Proofs.Number.Whole
import FieldValidation.Proofs.Value.Paths

/-!
# The keys of a map

A map may have a text and a number that is written like it as two keys. A field is meant to be found
under either: under its own key if the map has it, and otherwise under the key of the other kind
with the same text. From a number to its text the step is always right. From a text to a number it
is made for runs of digits only, and the number that they spell may be written otherwise, so there
it is right just where each number in question is a key that is written as the run of digits is.

## Main definitions

* `FieldId.SameKind`: two identifiers are both names or both positions
* `KeyedMap`: a map whose keys are texts and numbers
* `KeyedMap.put`, `KeyedMap.ofPairs`: how such maps come about
* `KeyedMap.FoundByForm`: a field is found under the keys that are written like it
* `KeyedMap.NumbersByForm`: where no key is the text itself, a number is found under the text if it
  is written so

## Main results

* `FieldId.sameKey_iff`: keys are the same if they have one kind and one text
* `KeyedMap.foundByForm_iff`: which fields are found under the keys that are written like them
-/

namespace FieldValidation

/-! ## Names and positions as keys -/

namespace FieldId

variable {a b : FieldId}

/-- Two identifiers are both names, or both positions. -/
def SameKind : FieldId → FieldId → Prop
  | .name _, .name _ => True
  | .position _, .position _ => True
  | _, _ => False

/-- Identifiers are the same key if they have one kind and one text. -/
theorem sameKey_iff :
    a.toValue.sameKey b.toValue = true ↔ a.SameKind b ∧ a.written = b.written := by
  match a, b with
  | .name t, .name u => simp [toValue, Value.sameKey, Value.identical, SameKind, written]
  | .name _, .position _ | .position _, .name _ =>
    simp [toValue, Value.sameKey, Value.identical, SameKind]
  | .position x, .position y =>
    rw [SameKind, true_and, written, written, Number.written_eq_iff]
    match x, y with
    | .nan, .nan => simp [toValue, Value.sameKey]
    | .nan, .finite _ | .nan, .infinite _ | .finite _, _ | .infinite _, _ =>
      simp [toValue, Value.sameKey, Value.identical]

/-- The key that a map holds for an identifier: there is one zero. -/
def settled : FieldId → FieldId
  | .name t => .name t
  | .position x => .position (if x.isZero then .zero else x)

theorem toValue_settled (a : FieldId) : a.settled.toValue = Value.mapKey a.toValue := by
  cases a <;> rfl

theorem sameKey_settled (a b : FieldId) :
    a.toValue.sameKey b.settled.toValue = a.toValue.sameKey b.toValue := by
  have hwritten : b.settled.written = b.written := by
    cases b with
    | name t => rfl
    | position x =>
      show (if x.isZero then Number.zero else x).written = x.written
      split
      · next hzero =>
        cases x with
        | nan | infinite => cases hzero
        | finite x => simp_all [Number.isZero, Number.written, Number.zero, FiniteNumber.zero]
      · rfl
  have hkind : a.SameKind b.settled ↔ a.SameKind b := by
    cases a <;> cases b <;> exact Iff.rfl
  apply Bool.eq_iff_iff.mpr
  rw [sameKey_iff, sameKey_iff, hwritten, hkind]

end FieldId

/-! ## Maps with such keys -/

/-- A map whose keys are texts and numbers, no two of them the same. -/
structure KeyedMap where
  entries : List (FieldId × Value)
  distinct : entries.Pairwise fun e f => e.1.toValue.sameKey f.1.toValue = false

namespace KeyedMap

variable {m : KeyedMap} {key : FieldId} {t : Text}

/-- The entries with their keys as values. -/
def pairs (entries : List (FieldId × Value)) : List (Value × Value) :=
  entries.map fun e => (e.1.toValue, e.2)

/-- The map as a dataset. -/
def toValue (m : KeyedMap) : Value := .map (pairs m.entries)

/-- The map has this key. -/
def HasKey (m : KeyedMap) (key : FieldId) : Prop :=
  ∃ e ∈ m.entries, e.1.toValue.sameKey key.toValue = true

/-- What the map holds under this key. -/
def find? (m : KeyedMap) (key : FieldId) : Option Value := findKey? (pairs m.entries) key.toValue

theorem findKey?_pairs_eq_none_iff {entries : List (FieldId × Value)} :
    findKey? (pairs entries) key.toValue = none ↔
      ∀ e ∈ entries, e.1.toValue.sameKey key.toValue = false := by
  induction entries with
  | nil => simp [pairs, findKey?]
  | cons e rest ih =>
    rw [List.forall_mem_cons, ← ih]
    show (if e.1.toValue.sameKey key.toValue then _ else findKey? (pairs rest) _) = none ↔ _
    split
    · next hsame => simp [hsame]
    · next hsame => simp [hsame]

theorem findKey?_pairs_of_mem {entries : List (FieldId × Value)} {e : FieldId × Value}
    (hdistinct : entries.Pairwise fun e f => e.1.toValue.sameKey f.1.toValue = false)
    (hmem : e ∈ entries) (h : e.1.toValue.sameKey key.toValue = true) :
    findKey? (pairs entries) key.toValue = some e.2 := by
  induction entries with
  | nil => cases hmem
  | cons f rest ih =>
    obtain ⟨hfirst, hrest⟩ := List.pairwise_cons.mp hdistinct
    show (if f.1.toValue.sameKey key.toValue then _ else findKey? (pairs rest) _) = _
    rcases List.mem_cons.mp hmem with rfl | hmem
    · rw [if_pos h]
    · have hother : ¬ f.1.toValue.sameKey key.toValue = true := by
        intro hsame
        have hne := hfirst e hmem
        rw [FieldId.sameKey_iff] at h hsame
        rw [← Bool.not_eq_true, FieldId.sameKey_iff] at hne
        apply hne
        refine ⟨?_, hsame.2.trans h.2.symm⟩
        have hkinds := And.intro hsame.1 h.1
        revert hkinds
        cases f.1 <;> cases e.1 <;> cases key <;> simp [FieldId.SameKind]
      rw [if_neg hother]
      exact ih hrest hmem

theorem find?_eq_none_iff : m.find? key = none ↔ ¬ m.HasKey key := by
  rw [find?, findKey?_pairs_eq_none_iff]
  simp [HasKey]

theorem find?_of_mem {e : FieldId × Value} (hmem : e ∈ m.entries)
    (h : e.1.toValue.sameKey key.toValue = true) : m.find? key = some e.2 :=
  findKey?_pairs_of_mem m.distinct hmem h

theorem isSome_find?_iff : (m.find? key).isSome = true ↔ m.HasKey key := by
  rw [← not_iff_not, ← find?_eq_none_iff, Bool.not_eq_true, Option.isSome_eq_false_iff,
    Option.isNone_iff_eq_none]

/-- A field is looked up under its own key, and then under the other one. -/
theorem lookup_toValue (h : key.Undotted) :
    m.toValue.lookup key = (m.find? key).or (m.find? key.alternate) := by
  have hchild : m.toValue.child? key = (m.find? key).or (m.find? key.alternate) := by
    unfold toValue Value.child? find?
    dsimp only
    cases findKey? (pairs m.entries) key.toValue <;> rfl
  rw [Value.lookup, FieldId.path_of_undotted h, Value.descend, hchild]
  cases (m.find? key).or (m.find? key.alternate) <;> rfl

theorem hasField_toValue (h : key.Undotted) :
    m.toValue.hasField key = true ↔ m.HasKey key ∨ m.HasKey key.alternate := by
  rw [Value.hasField, lookup_toValue h, Option.isSome_or, Bool.or_eq_true, isSome_find?_iff,
    isSome_find?_iff]

/-! ## How such maps come about -/

/-- The map with a value put under a key; a key that is there keeps its place. -/
def put (m : KeyedMap) (key : FieldId) (value : Value) : KeyedMap where
  entries :=
    if m.entries.any (·.1.toValue.sameKey key.toValue) then
      m.entries.map fun e => if e.1.toValue.sameKey key.toValue then (e.1, value) else e
    else m.entries ++ [(key.settled, value)]
  distinct := by
    split
    · apply List.pairwise_map.mpr
      refine m.distinct.imp ?_
      intro e f hne
      split <;> split <;> exact hne
    · next hnew =>
      apply List.pairwise_append.mpr
      refine ⟨m.distinct, List.pairwise_singleton _ _, ?_⟩
      intro e he f hf
      rw [List.mem_singleton.mp hf, FieldId.sameKey_settled, ← Bool.not_eq_true]
      intro hsame
      exact hnew (List.any_eq_true.mpr ⟨e, he, hsame⟩)

/-- The map without entries. -/
def empty : KeyedMap := ⟨[], .nil⟩

/-- The map that a sequence of pairs makes. -/
def ofPairs (entries : List (FieldId × Value)) : KeyedMap :=
  entries.foldl (fun m e => m.put e.1 e.2) empty

theorem pairs_put (m : KeyedMap) (key : FieldId) (value : Value) :
    pairs (m.put key value).entries = Value.putKey (pairs m.entries) key.toValue value := by
  have hany : (pairs m.entries).any (·.1.sameKey key.toValue) =
      m.entries.any (·.1.toValue.sameKey key.toValue) := List.any_map
  unfold put Value.putKey
  dsimp only
  rw [hany]
  split
  · rw [pairs, pairs, List.map_map, List.map_map]
    apply List.map_congr_left
    intro e _
    simp only [Function.comp_apply]
    split <;> rfl
  · rw [pairs, List.map_append, List.map_singleton, FieldId.toValue_settled]
    rfl

/-- Every map that is made of pairs under texts and numbers is such a map. -/
theorem toValue_ofPairs (entries : List (FieldId × Value)) :
    (ofPairs entries).toValue = Value.mapOfPairs (pairs entries) := by
  have hfold (m : KeyedMap) : pairs (entries.foldl (fun m e => m.put e.1 e.2) m).entries =
      (pairs entries).foldl (fun entries e => Value.putKey entries e.1 e.2) (pairs m.entries) := by
    induction entries generalizing m with
    | nil => rfl
    | cons e rest ih =>
      rw [List.foldl_cons, ih, pairs_put]
      rfl
  exact congrArg Value.map (hfold empty)

/-! ## Found by its form -/

/-- A field is found just where some key is written like it, and reading it gives what the map holds
under that key, the key of its own kind first. -/
def FoundByForm (m : KeyedMap) (key : FieldId) : Prop :=
  (m.toValue.hasField key = true ↔ ∃ e ∈ m.entries, e.1.written = key.written) ∧
    ∀ e ∈ m.entries, e.1.written = key.written →
      (e.1.SameKind key ∨ ∀ f ∈ m.entries, f.1.written = key.written → ¬ f.1.SameKind key) →
      ∀ wording, Validator.fetch wording m.toValue key = .ok e.2

/-- Where no key is the text itself, a number among the keys is written so just where the text is a
run of digits that spells it. -/
def NumbersByForm (m : KeyedMap) (t : Text) : Prop :=
  ¬ m.HasKey (.name t) → ∀ x, m.HasKey (.position x) →
    (x.written = t ↔ t.IsRun ∧ (Number.ofText t).written = x.written)

theorem hasKey_name_iff : m.HasKey (.name t) ↔ ∃ v, (.name t, v) ∈ m.entries := by
  constructor
  · rintro ⟨⟨key, v⟩, hmem, hsame⟩
    obtain ⟨hkind, hwritten⟩ := FieldId.sameKey_iff.mp hsame
    cases key with
    | position x => cases hkind
    | name u =>
      obtain rfl : u = t := hwritten
      exact ⟨v, hmem⟩
  · rintro ⟨v, hmem⟩
    exact ⟨_, hmem, FieldId.sameKey_iff.mpr ⟨trivial, rfl⟩⟩

theorem hasKey_position_iff {x : Number} :
    m.HasKey (.position x) ↔
      ∃ y v, (.position y, v) ∈ m.entries ∧ y.written = x.written := by
  constructor
  · rintro ⟨⟨key, v⟩, hmem, hsame⟩
    obtain ⟨hkind, hwritten⟩ := FieldId.sameKey_iff.mp hsame
    cases key with
    | name t => cases hkind
    | position y => exact ⟨y, v, hmem, hwritten⟩
  · rintro ⟨y, v, hmem, hwritten⟩
    exact ⟨_, hmem, FieldId.sameKey_iff.mpr ⟨trivial, hwritten⟩⟩

/-- Some key is written so: the text itself, or a number. -/
theorem exists_written_iff :
    (∃ e ∈ m.entries, e.1.written = t) ↔
      m.HasKey (.name t) ∨ ∃ x, m.HasKey (.position x) ∧ x.written = t := by
  constructor
  · rintro ⟨⟨key, v⟩, hmem, hwritten⟩
    cases key with
    | name u =>
      obtain rfl : u = t := hwritten
      exact .inl (hasKey_name_iff.mpr ⟨v, hmem⟩)
    | position x => exact .inr ⟨x, hasKey_position_iff.mpr ⟨x, v, hmem, rfl⟩, hwritten⟩
  · rintro (hname | ⟨x, hposition, hwritten⟩)
    · obtain ⟨v, hmem⟩ := hasKey_name_iff.mp hname
      exact ⟨_, hmem, rfl⟩
    · obtain ⟨y, v, hmem, hy⟩ := hasKey_position_iff.mp hposition
      exact ⟨_, hmem, hy.trans hwritten⟩

theorem alternate_name_of_isRun (h : t.IsRun) :
    (FieldId.name t).alternate = .position (.ofText t) := by
  rw [FieldId.alternate, h.1, h.2]
  rfl

theorem alternate_name_of_not_isRun (h : ¬ t.IsRun) : (FieldId.name t).alternate = .name t := by
  unfold FieldId.alternate
  dsimp only
  rw [if_neg]
  intro hrun
  rw [Bool.and_eq_true, Bool.not_eq_true'] at hrun
  exact h hrun

/-- A name is found under itself, or under the number that it spells as a run of digits. -/
theorem hasField_name_iff (h : (FieldId.name t).Undotted) :
    m.toValue.hasField (.name t) = true ↔
      m.HasKey (.name t) ∨ t.IsRun ∧ m.HasKey (.position (.ofText t)) := by
  rw [hasField_toValue h]
  by_cases hrun : t.IsRun
  · rw [alternate_name_of_isRun hrun]
    simp [hrun]
  · rw [alternate_name_of_not_isRun hrun]
    simp [hrun]

/-- What is read is the value under the own key, or else the one under the other key. -/
theorem fetch_of_mem {e : FieldId × Value} (hundotted : key.Undotted) (hmem : e ∈ m.entries)
    (h : e.1.toValue.sameKey key.toValue = true ∨
      ¬ m.HasKey key ∧ e.1.toValue.sameKey key.alternate.toValue = true) (wording : Wording) :
    Validator.fetch wording m.toValue key = .ok e.2 := by
  have hlookup : m.toValue.lookup key = some e.2 := by
    rw [lookup_toValue hundotted]
    rcases h with hown | ⟨hnone, hother⟩
    · rw [find?_of_mem hmem hown, Option.some_or]
    · rw [find?_eq_none_iff.mpr hnone, Option.none_or, find?_of_mem hmem hother]
  rw [Validator.fetch, hlookup]

/-- A number is found under the keys that are written like it. -/
theorem foundByForm_position (m : KeyedMap) (x : Number) : m.FoundByForm (.position x) := by
  have hundotted : (FieldId.position x).Undotted := trivial
  constructor
  · rw [hasField_toValue hundotted, FieldId.written, exists_written_iff, Or.comm]
    refine or_congr_right ⟨fun h => ⟨x, h, rfl⟩, ?_⟩
    rintro ⟨y, hy, hwritten⟩
    obtain ⟨z, v, hmem, hz⟩ := hasKey_position_iff.mp hy
    exact hasKey_position_iff.mpr ⟨z, v, hmem, hz.trans hwritten⟩
  · intro e hmem hwritten hfirst
    apply fetch_of_mem hundotted hmem
    rcases hfirst with hown | hother
    · exact .inl (FieldId.sameKey_iff.mpr ⟨hown, hwritten⟩)
    · refine .inr ⟨?_, FieldId.sameKey_iff.mpr ⟨?_, hwritten⟩⟩
      · rintro ⟨f, hf, hsame⟩
        obtain ⟨hkind, hform⟩ := FieldId.sameKey_iff.mp hsame
        exact hother f hf hform hkind
      · have hkind := hother e hmem hwritten
        revert hkind
        cases e.1 <;> simp [FieldId.SameKind, FieldId.alternate]

/-- A run of digits that a number is written as spells the number. -/
theorem written_ofText_of_isRun {x : Number} (h : x.written.IsRun) :
    (Number.ofText x.written).written = x.written := by
  cases x with
  | finite x => exact Number.written_ofText_written x
  | nan => exact absurd h.2 (by decide)
  | infinite negative => cases negative <;> exact absurd h.2 (by decide)

/-- A text is found under the keys that are written like it just where no key of the other kind is
missed or hit wrongly. -/
theorem foundByForm_name_iff (h : (FieldId.name t).Undotted) :
    m.FoundByForm (.name t) ↔ m.NumbersByForm t := by
  constructor
  · rintro ⟨hfound, -⟩ hname x hx
    rw [hasField_name_iff h, FieldId.written, exists_written_iff, or_iff_right hname,
      or_iff_right hname] at hfound
    constructor
    · rintro rfl
      have hrun := (hfound.mpr ⟨x, hx, rfl⟩).1
      exact ⟨hrun, written_ofText_of_isRun hrun⟩
    · rintro ⟨hrun, hspelled⟩
      have hkey : m.HasKey (.position (.ofText t)) := by
        obtain ⟨y, v, hmem, hy⟩ := hasKey_position_iff.mp hx
        exact hasKey_position_iff.mpr ⟨y, v, hmem, hy.trans hspelled.symm⟩
      obtain ⟨y, -, rfl⟩ := hfound.mp ⟨hrun, hkey⟩
      rw [← hspelled, written_ofText_of_isRun hrun]
  · intro hnumbers
    constructor
    · rw [hasField_name_iff h, FieldId.written, exists_written_iff]
      by_cases hname : m.HasKey (.name t)
      · exact iff_of_true (.inl hname) (.inl hname)
      · rw [or_iff_right hname, or_iff_right hname]
        constructor
        · rintro ⟨hrun, hkey⟩
          obtain ⟨y, v, hmem, hy⟩ := hasKey_position_iff.mp hkey
          have hy' : m.HasKey (.position y) := hasKey_position_iff.mpr ⟨y, v, hmem, rfl⟩
          exact ⟨y, hy', (hnumbers hname y hy').mpr ⟨hrun, hy.symm⟩⟩
        · rintro ⟨x, hx, hwritten⟩
          obtain ⟨hrun, hspelled⟩ := (hnumbers hname x hx).mp hwritten
          obtain ⟨y, v, hmem, hy⟩ := hasKey_position_iff.mp hx
          exact ⟨hrun, hasKey_position_iff.mpr ⟨y, v, hmem, hy.trans hspelled.symm⟩⟩
    · rintro ⟨key, v⟩ hmem hwritten hfirst
      apply fetch_of_mem h hmem
      cases key with
      | name u => exact .inl (FieldId.sameKey_iff.mpr ⟨trivial, hwritten⟩)
      | position x =>
        have hname : ¬ m.HasKey (.name t) := by
          rintro ⟨f, hf, hsame⟩
          obtain ⟨hkind, hform⟩ := FieldId.sameKey_iff.mp hsame
          exact (hfirst.resolve_left nofun) f hf hform hkind
        obtain ⟨hrun, hspelled⟩ :=
          (hnumbers hname x (hasKey_position_iff.mpr ⟨x, v, hmem, rfl⟩)).mp hwritten
        refine .inr ⟨hname, ?_⟩
        rw [alternate_name_of_isRun hrun]
        exact FieldId.sameKey_iff.mpr ⟨trivial, hspelled.symm⟩

/-- Where the text of a number is a run of digits, the number and the text are found alike. -/
theorem numbersByForm_of_isRun {x : Number} (h : x.written.IsRun) : m.NumbersByForm x.written := by
  intro _ y _
  constructor
  · intro hwritten
    exact ⟨h, (written_ofText_of_isRun h).trans hwritten.symm⟩
  · rintro ⟨-, hspelled⟩
    exact hspelled.symm.trans (written_ofText_of_isRun h)

theorem unit_point_not_mem_of_isRun (h : t.IsRun) : unit '.' ∉ t := by
  intro hmem
  have hdigit := List.all_eq_true.mp h.2 _ hmem
  exact absurd hdigit (by decide)

/-- A number is found under the keys that are written like it, and so is a text without dots just
where, unless it is itself a key, it spells those numbers among the keys as a run of digits that are
written so. This is so for the text of every whole number that is not negative and below `10 ^ 21`;
the number and its text are then found alike. -/
theorem foundByForm_iff (m : KeyedMap) :
    (∀ x, m.FoundByForm (.position x)) ∧
    (∀ t, unit '.' ∉ t → (m.FoundByForm (.name t) ↔ m.NumbersByForm t)) ∧
    ∀ (x : FiniteNumber) (i : Int), x.IsInteger i → 0 ≤ i → i < tenTo 21 →
      m.FoundByForm (.name (Number.written (.finite x))) ∧
      m.toValue.hasField (.position (.finite x)) =
        m.toValue.hasField (.name (Number.written (.finite x))) := by
  refine ⟨m.foundByForm_position, fun t ht => foundByForm_name_iff ht, ?_⟩
  intro x i hx hpos hlt
  have hrun := Number.isRun_written hx hpos hlt
  have hname : m.FoundByForm (.name (Number.written (.finite x))) :=
    (foundByForm_name_iff (unit_point_not_mem_of_isRun hrun)).mpr (numbersByForm_of_isRun hrun)
  refine ⟨hname, ?_⟩
  apply Bool.eq_iff_iff.mpr
  rw [hname.1, (m.foundByForm_position (.finite x)).1]
  rfl

/-- A number that is found under its text, and a text and a number that are written alike, each with
a value of its own. -/
theorem foundByForm_iff_zeroOne :
    let entries : List (FieldId × Value) := [(.position .zero, .ofString "zero"),
      (.name "1", .ofString "one"), (.position (.ofNat 1), .ofString "uno")]
    ∃ m : KeyedMap, m.entries = entries ∧
      m.toValue.hasField (.position .zero) = m.toValue.hasField (.name "0") ∧
      ∀ wording, Validator.fetch wording m.toValue (.name "1") = .ok (.ofString "one") ∧
        Validator.fetch wording m.toValue (.position (.ofNat 1)) = .ok (.ofString "uno") := by
  intro entries
  have hdistinct : entries.Pairwise fun e f => e.1.toValue.sameKey f.1.toValue = false := by
    decide +kernel
  obtain ⟨hposition, hname, hwhole⟩ := foundByForm_iff ⟨entries, hdistinct⟩
  refine ⟨⟨entries, hdistinct⟩, rfl, ?_, fun wording => ⟨?_, ?_⟩⟩
  · have hzero : (FiniteNumber.zero false).IsInteger 0 :=
      FiniteNumber.isInteger_of_toInt? (by decide +kernel)
    exact (hwhole (.zero false) 0 hzero (Int.le_refl 0) (by decide)).2
  · refine ((hname "1" (by decide)).mpr ?_).2 (.name "1", .ofString "one") (.tail _ (.head _)) rfl
      (.inl trivial) wording
    intro hnone
    exact absurd (hasKey_name_iff.mpr ⟨.ofString "one", .tail _ (.head _)⟩) hnone
  · exact (hposition (.ofNat 1)).2 (.position (.ofNat 1), .ofString "uno")
      (.tail _ (.tail _ (.head _))) rfl (.inl trivial) wording

/-- The map with one entry. -/
def single (key : FieldId) (value : Value) : KeyedMap :=
  ⟨[(key, value)], List.pairwise_singleton _ _⟩

/-- A negative number that is a key is missed under its text, although it is there, and a run of
digits with a zero before it hits a number that is not written so. -/
theorem not_foundByForm :
    let negative := single (.position (.ofInt (-1))) (.ofString "x")
    let one := single (.position (.ofInt 1)) (.ofString "x")
    ¬ negative.FoundByForm (.name "-1") ∧
      negative.toValue.hasField (.position (.ofInt (-1))) ≠
        negative.toValue.hasField (.name "-1") ∧
      ¬ one.FoundByForm (.name "01") := by
  intro negative one
  have habsent : negative.toValue.hasField (.name "-1") = false := by decide +kernel
  refine ⟨?_, by decide +kernel, ?_⟩
  · rintro ⟨hfound, -⟩
    have hwritten : (Number.ofInt (-1)).written = "-1" := by decide +kernel
    have hthere := hfound.mpr ⟨_, List.mem_singleton_self _, hwritten⟩
    rw [habsent] at hthere
    cases hthere
  · rintro ⟨hfound, -⟩
    have hthere : one.toValue.hasField (.name "01") = true := by decide +kernel
    obtain ⟨e, hmem, hwritten⟩ := hfound.mp hthere
    rw [List.mem_singleton.mp hmem] at hwritten
    exact absurd hwritten (by decide +kernel)

end KeyedMap

end FieldValidation
