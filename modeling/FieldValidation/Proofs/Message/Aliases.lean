import FieldValidation.Proofs.Message.Files

/-!
# Chains of aliases

From a key on, the aliases of a catalog lead through a chain of keys. The chain ends where a key
has texts or no entry, and it need not end: then it comes back to a key it has passed. Looking up a
message follows the chain, and what it gives is told by how the chain ends.

The keys passed are distinct and have entries, so no more of them are passed than there are
entries. This is what ends the search where the chain does not.

## Main definitions

* `Catalog.chain`: the keys that aliases lead through
* `ChainEnd`, `ChainEnd.IsOf`: how a chain ends
* `Catalog.Follows`: a search for texts, with the keys that it visits

## Main results

* `ChainEnd.IsOf.unique`: a chain has one end at most
* `Catalog.Follows.exists_end`: a search comes to the end of the chain
* `CatalogReader.get_by_chain`: the text of a message is told by the end of its chain
-/

namespace FieldValidation

namespace Catalog

variable {catalog : Catalog} {root key : Text} {n m : Nat}

/-! ## Chains -/

/-- The keys with an entry, each of them once. -/
def keys (catalog : Catalog) : List Text := (catalog.map (·.1)).eraseDups

/-- The key that a key stands for. -/
def alias? (catalog : Catalog) (key : Text) : Option Text :=
  match catalog.unit? key with
  | some (.reference next) => some next
  | _ => none

/-- The keys that aliases lead through from a key on; `none` after the end of the chain. -/
def chain (catalog : Catalog) (key : Text) : Nat → Option Text
  | 0 => some key
  | n + 1 => (catalog.chain key n).bind catalog.alias?

theorem mem_keys_of_entry {entry : CatalogUnit} (h : catalog.unit? key = some entry) :
    key ∈ catalog.keys :=
  List.mem_eraseDups.mpr (mem_keys_of_unit? h)

theorem chain_succ (h : catalog.chain root n = some key) :
    catalog.chain root (n + 1) = catalog.alias? key := by
  rw [chain, h, Option.bind_some]

/-- A chain that has come back to a key goes on from there as it did before. -/
theorem chain_add (h : catalog.chain root m = catalog.chain root n) (d : Nat) :
    catalog.chain root (m + d) = catalog.chain root (n + d) := by
  induction d with
  | zero => exact h
  | succ d ih => rw [← Nat.add_assoc, ← Nat.add_assoc, chain, chain, ih]

/-- After the end of a chain there are no keys. -/
theorem chain_eq_none (h : catalog.chain root n = none) (d : Nat) :
    catalog.chain root (n + d) = none := by
  induction d with
  | zero => exact h
  | succ d ih => rw [← Nat.add_assoc, chain, ih, Option.bind_none]

/-- A chain that comes back to a key does not end. -/
theorem chain_ne_none (hm : m < n) (h : catalog.chain root m = catalog.chain root n)
    (hsome : catalog.chain root n = some key) (i : Nat) : catalog.chain root i ≠ none := by
  induction i using Nat.strongRecOn with
  | ind i ih =>
    rcases Nat.lt_or_ge n i with hlt | hge
    · obtain ⟨d, rfl⟩ := Nat.exists_eq_add_of_lt hlt
      rw [Nat.add_assoc, ← chain_add h]
      exact ih _ (by omega)
    · intro hnone
      have := chain_eq_none hnone (n - i)
      rw [Nat.add_sub_cancel' hge, hsome] at this
      cases this

end Catalog

/-! ## Ends -/

/-- How a chain of aliases ends, and after how many steps. -/
inductive ChainEnd where
  /-- A key with texts is reached. -/
  | texts (steps : Nat) (key : Text) (byLanguage : List (Text × Text))
  /-- A key without an entry is reached. -/
  | missing (steps : Nat) (key : Text)
  /-- A key is reached that was passed before. -/
  | cycle (steps : Nat) (key : Text)

namespace ChainEnd

/-- The number of aliases followed. -/
def steps : ChainEnd → Nat
  | .texts n _ _ | .missing n _ | .cycle n _ => n

/-- Whether the chain from a key ends so. Of the keys passed twice a cycle names the first, so
those before it are distinct. -/
def IsOf (catalog : Catalog) (root : Text) : ChainEnd → Prop
  | .texts n key byLanguage =>
    catalog.chain root n = some key ∧ catalog.unit? key = some (.texts byLanguage)
  | .missing n key => catalog.chain root n = some key ∧ catalog.unit? key = none
  | .cycle n key =>
    catalog.chain root n = some key ∧ (∃ m < n, catalog.chain root m = some key) ∧
      ∀ i < n, ∀ j < i, catalog.chain root i ≠ catalog.chain root j

/-- What a search finds that comes to such an end. -/
def found : ChainEnd → Except CatalogFault (Text × List (Text × Text))
  | .texts _ key byLanguage => .ok (key, byLanguage)
  | .missing _ key => .error (.unknownKey key)
  | .cycle _ key => .error (.aliasCycle key)

/-- What is told of a message whose chain ends so. -/
def answer (language : Text) (args : List Text) : ChainEnd → Except CatalogFault Text
  | .texts _ key byLanguage =>
    match byLanguage.lookup language with
    | some text => Message.format key text args
    | none => .error (.unknownLanguage language key)
  | .missing _ key => .error (.unknownKey key)
  | .cycle _ key => .error (.aliasCycle key)

variable {catalog : Catalog} {root key : Text} {n m : Nat} {e e' : ChainEnd}

/-- Whether a chain ends with a key that stands for no other. -/
def Stops (catalog : Catalog) (root : Text) (n : Nat) (key : Text) : Prop :=
  catalog.chain root n = some key ∧ catalog.alias? key = none

theorem Stops.eq_none (h : Stops catalog root n key) (hlt : n < m) :
    catalog.chain root m = none := by
  obtain ⟨d, rfl⟩ := Nat.exists_eq_add_of_lt hlt
  rw [Nat.add_right_comm]
  exact Catalog.chain_eq_none ((Catalog.chain_succ h.1).trans h.2) d

/-- What ends does not come back to a key. -/
theorem Stops.not_cycle {key' : Text} (h : Stops catalog root n key) :
    ¬ (cycle m key').IsOf catalog root := by
  rintro ⟨hm, ⟨j, hj, hback⟩, -⟩
  exact Catalog.chain_ne_none hj (hback.trans hm.symm) hm (n + 1) (h.eq_none (Nat.lt_succ_self n))

/-- A chain stops once. -/
theorem Stops.unique {key' : Text} (h : Stops catalog root n key) (h' : Stops catalog root m key') :
    n = m ∧ key = key' := by
  rcases Nat.lt_trichotomy n m with hlt | rfl | hlt
  · exact absurd (h.eq_none hlt) (by rw [h'.1]; simp)
  · exact ⟨rfl, Option.some.inj (h.1.symm.trans h'.1)⟩
  · exact absurd (h'.eq_none hlt) (by rw [h.1]; simp)

theorem IsOf.stops_of_texts {byLanguage : List (Text × Text)}
    (h : (texts n key byLanguage).IsOf catalog root) : Stops catalog root n key :=
  ⟨h.1, by rw [Catalog.alias?, h.2]⟩

theorem IsOf.stops_of_missing (h : (missing n key).IsOf catalog root) :
    Stops catalog root n key :=
  ⟨h.1, by rw [Catalog.alias?, h.2]⟩

/-- A chain comes back for the first time once. -/
theorem IsOf.cycle_le {key' : Text} (h : (cycle n key).IsOf catalog root)
    (h' : (cycle m key').IsOf catalog root) : m ≤ n := by
  obtain ⟨hn, ⟨j, hj, hback⟩, -⟩ := h
  exact Nat.not_lt.mp fun hlt => h'.2.2 n hlt j hj (hn.trans hback.symm)

/-- A chain has one end at most. -/
theorem IsOf.unique (h : e.IsOf catalog root) (h' : e'.IsOf catalog root) : e' = e := by
  match e, e' with
  | .texts .., .texts .. =>
    obtain ⟨rfl, rfl⟩ := h.stops_of_texts.unique h'.stops_of_texts
    obtain rfl := CatalogUnit.texts.inj (Option.some.inj (h.2.symm.trans h'.2))
    rfl
  | .texts .., .missing .. =>
    obtain ⟨rfl, rfl⟩ := h.stops_of_texts.unique h'.stops_of_missing
    cases h.2.symm.trans h'.2
  | .missing .., .texts .. =>
    obtain ⟨rfl, rfl⟩ := h.stops_of_missing.unique h'.stops_of_texts
    cases h.2.symm.trans h'.2
  | .missing .., .missing .. =>
    obtain ⟨rfl, rfl⟩ := h.stops_of_missing.unique h'.stops_of_missing
    rfl
  | .texts .., .cycle .. => exact absurd h' h.stops_of_texts.not_cycle
  | .missing .., .cycle .. => exact absurd h' h.stops_of_missing.not_cycle
  | .cycle .., .texts .. => exact absurd h h'.stops_of_texts.not_cycle
  | .cycle .., .missing .. => exact absurd h h'.stops_of_missing.not_cycle
  | .cycle n key, .cycle m key' =>
    obtain rfl := Nat.le_antisymm (h.cycle_le h') (h'.cycle_le h)
    obtain rfl := Option.some.inj (h.1.symm.trans h'.1)
    rfl

end ChainEnd

/-! ## The search -/

namespace Catalog

/-- A search for texts from a key on, which has visited some keys before: the keys that it visits
and what it finds. -/
inductive Follows (catalog : Catalog) :
    List Text → Text → List Text → Except CatalogFault (Text × List (Text × Text)) → Prop
  /-- A key visited before is not looked up. -/
  | again {visited key} (hold : key ∈ visited) :
      Follows catalog visited key [key] (.error (.aliasCycle key))
  | missing {visited key} (hnew : key ∉ visited) (hunit : catalog.unit? key = none) :
      Follows catalog visited key [key] (.error (.unknownKey key))
  | texts {visited key byLanguage} (hnew : key ∉ visited)
      (hunit : catalog.unit? key = some (.texts byLanguage)) :
      Follows catalog visited key [key] (.ok (key, byLanguage))
  /-- An alias is followed; from now on its key is one visited before. -/
  | reference {visited key next keys result} (hnew : key ∉ visited)
      (hunit : catalog.unit? key = some (.reference next))
      (hrest : Follows catalog (visited ++ [key]) next keys result) :
      Follows catalog visited key (key :: keys) result

variable {catalog : Catalog} {root key next : Text} {visited visits : List Text}
  {result : Except CatalogFault (Text × List (Text × Text))}

/-- What is looked up is what a search finds. -/
theorem exists_follows (catalog : Catalog) (visited : List Text) (key : Text) :
    ∃ visits, catalog.Follows visited key visits (catalog.follow visited key) := by
  fun_induction catalog.follow visited key with
  | case1 visited key hold => exact ⟨_, .again (by simpa using hold)⟩
  | case2 visited key hnew hunit => exact ⟨_, .missing (by simpa using hnew) hunit⟩
  | case3 visited key hnew byLanguage hunit => exact ⟨_, .texts (by simpa using hnew) hunit⟩
  | case4 visited key hnew next hunit _ ih =>
    obtain ⟨visits, hvisits⟩ := ih
    exact ⟨_, .reference (by simpa using hnew) hunit hvisits⟩

/-- The keys visited so far are those that the chain begins with, and the key to visit is the next
of them. -/
structure Passed (catalog : Catalog) (root : Text) (visited : List Text) (key : Text) : Prop where
  along : ∀ i < visited.length, catalog.chain root i = visited[i]?
  here : catalog.chain root visited.length = some key
  distinct : visited.Nodup
  known : visited ⊆ catalog.keys

theorem Passed.start (catalog : Catalog) (root : Text) : catalog.Passed root [] root :=
  ⟨fun _ h => absurd h (Nat.not_lt_zero _), rfl, List.nodup_nil, List.nil_subset _⟩

/-- The key to visit is along the chain as well. -/
theorem Passed.along_concat (h : catalog.Passed root visited key) :
    ∀ i < (visited ++ [key]).length, catalog.chain root i = (visited ++ [key])[i]? := by
  intro i hi
  rw [List.length_append, List.length_singleton] at hi
  rcases Nat.lt_or_eq_of_le (Nat.le_of_lt_succ hi) with hlt | rfl
  · rw [List.getElem?_append_left hlt]
    exact h.along i hlt
  · rw [List.getElem?_concat_length]
    exact h.here

/-- An alias leads one step further along the chain. -/
theorem Passed.step (h : catalog.Passed root visited key) (hnew : key ∉ visited)
    (hunit : catalog.unit? key = some (.reference next)) :
    catalog.Passed root (visited ++ [key]) next where
  along := h.along_concat
  here := by
    rw [List.length_append, List.length_singleton, chain_succ h.here, alias?, hunit]
  distinct := by
    rw [List.nodup_append]
    refine ⟨h.distinct, by simp, ?_⟩
    rintro k hk k' hk' rfl
    exact hnew (List.mem_singleton.mp hk' ▸ hk)
  known := by
    intro k hk
    rcases List.mem_append.mp hk with hk | hk
    · exact h.known hk
    · exact List.mem_singleton.mp hk ▸ mem_keys_of_entry hunit

/-- The keys visited before are distinct along the chain. -/
theorem Passed.chain_ne (h : catalog.Passed root visited key) :
    ∀ i < visited.length, ∀ j < i, catalog.chain root i ≠ catalog.chain root j := by
  intro i hi j hj heq
  rw [h.along i hi, h.along j (by omega)] at heq
  have hij := (List.getElem?_inj hi h.distinct).mp heq
  omega

/-- A search comes to the end of the chain, and visits the keys up to there and no others. -/
theorem Follows.exists_end (h : catalog.Follows visited key visits result)
    (hpassed : catalog.Passed root visited key) :
    ∃ e : ChainEnd, e.IsOf catalog root ∧ result = e.found ∧ e.steps ≤ catalog.keys.length ∧
      (visited ++ visits).length = e.steps + 1 ∧
      ∀ i < (visited ++ visits).length, catalog.chain root i = (visited ++ visits)[i]? := by
  induction h with
  | again hold =>
    obtain ⟨m, hm, hkey⟩ := List.getElem_of_mem hold
    refine ⟨.cycle _ _, ⟨hpassed.here, ⟨m, hm, ?_⟩, hpassed.chain_ne⟩, rfl,
      hpassed.distinct.length_le_of_subset hpassed.known, List.length_append,
      hpassed.along_concat⟩
    rw [hpassed.along m hm, List.getElem?_eq_getElem hm, hkey]
  | missing hnew hunit =>
    exact ⟨.missing _ _, ⟨hpassed.here, hunit⟩, rfl,
      hpassed.distinct.length_le_of_subset hpassed.known, List.length_append,
      hpassed.along_concat⟩
  | texts hnew hunit =>
    exact ⟨.texts _ _ _, ⟨hpassed.here, hunit⟩, rfl,
      hpassed.distinct.length_le_of_subset hpassed.known, List.length_append,
      hpassed.along_concat⟩
  | reference hnew hunit hrest ih =>
    have hend := ih (hpassed.step hnew hunit)
    rwa [List.append_assoc, List.singleton_append] at hend

/-- The text of a message is told by the end of its chain. -/
theorem get_of_found {language : Text} {args : List Text} {e : ChainEnd}
    (h : catalog.follow [] key = e.found) :
    catalog.get language key args = e.answer language args := by
  unfold get
  rw [h]
  cases e <;> rfl

end Catalog

namespace CatalogReader

/-- The text of a message is told by the end of the chain from its key, which is one of three. The
search visits the keys of the chain up to there, at most one more than there are entries. It is so
for every catalog that can be loaded, where the files have been laid over one another. -/
theorem get_by_chain {reader : CatalogReader} {files : Files} {environment : Environment}
    {catalog : Catalog} (h : reader.load files environment = .ok catalog) (key : Text)
    (args : List Text) :
    (∃ e : ChainEnd, e.IsOf catalog key ∧ (∀ e' : ChainEnd, e'.IsOf catalog key → e' = e) ∧
      reader.get files environment key args = e.answer (reader.languageIn environment) args ∧
      ∃ visits, catalog.Follows [] key visits (catalog.follow [] key) ∧
        visits.length = e.steps + 1 ∧ visits.length ≤ catalog.keys.length + 1 ∧
        ∀ i < visits.length, catalog.chain key i = visits[i]?) ∧
    (reader.loaded = none →
      ∃ layers, (reader.paths environment).mapM (Catalog.ofFile files) = .ok layers ∧
        ∀ k, catalog.unit? k = layers.reverse.findSome? (Catalog.unit? · k)) := by
  constructor
  · obtain ⟨visits, hvisits⟩ := Catalog.exists_follows catalog [] key
    obtain ⟨e, he, hfound, hsteps, hlength, halong⟩ :=
      hvisits.exists_end (Catalog.Passed.start catalog key)
    rw [List.nil_append] at hlength halong
    refine ⟨e, he, fun e' he' => he.unique he', ?_, visits, hvisits, hlength, by omega, halong⟩
    rw [get, h]
    exact Catalog.get_of_found hfound
  · intro hloaded
    rw [load, hloaded] at h
    obtain ⟨layers, hlayers, hunit⟩ := Catalog.exists_layers h
    exact ⟨layers, hlayers, fun k => by rw [hunit, Catalog.unit?, List.lookup_nil, Option.or_none]⟩

/-- An alias in one file and an alias in another one over it can make a cycle. -/
theorem get_by_chain_cycle :
    let lower := Files.none.write "lower"
      "\x7b\"save\": \"store\", \"store\": \x7b\"en\": \"Save?\"\x7d\x7d"
    let files := lower.write "upper" "\x7b\"store\": \"save\"\x7d"
    let reader : CatalogReader := ⟨"default.json", some ["lower", "upper"], none, none⟩
    reader.get files [] "save" [] = .error (.aliasCycle "save") := by
  intro lower files reader
  let layered : Catalog := [("store", .reference "save"), ("save", .reference "store"),
    ("store", .texts [("en", "Save?")])]
  have hread : (reader.load files []).toOption = some layered := by
    decide +kernel
  cases hload : reader.load files [] with
  | error fault =>
    rw [hload] at hread
    cases hread
  | ok catalog =>
    rw [hload] at hread
    obtain rfl := Option.some.inj hread
    obtain ⟨⟨e, -, hunique, hget, -⟩, -⟩ := get_by_chain hload "save" []
    have hcycle : .cycle 2 "save" = e :=
      hunique _ ⟨rfl, ⟨0, by decide, rfl⟩, by decide +kernel⟩
    rw [hget, ← hcycle]
    rfl

end CatalogReader

end FieldValidation
