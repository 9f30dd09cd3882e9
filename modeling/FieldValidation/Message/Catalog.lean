import FieldValidation.Failure.Basic

/-!
# The message catalog

A catalog gives each key either its text in some languages or another key that it stands for. A
key is looked up by following the aliases from it until texts are reached; a chain of aliases that
comes back to a key it has passed has no text.

In the text of a message `%s` stands for the next argument and `%%` for a percent sign. They are
found from left to right; an argument is put in as it is and never looked at again.

## Main definitions

* `Message.format`: a text with its arguments filled in
* `Catalog`: the entries by key
* `Catalog.follow`: the entry at the end of a chain of aliases
* `Catalog.get`: the text of a message
-/

namespace FieldValidation

namespace Message

/-- The text with its arguments filled in; `none` if it asks for more than there are. -/
def fill? : (text : Text) → (args : List Text) → Option Text
  | [], _ => some []
  | [u], _ => some [u]
  | u :: v :: rest, args =>
    if u = unit '%' ∧ v = unit '%' then (fill? rest args).map (unit '%' :: ·)
    else if u = unit '%' ∧ v = unit 's' then
      match args with
      | [] => none
      | a :: as => (fill? rest as).map (a ++ ·)
    else (fill? (v :: rest) args).map (u :: ·)

/-- The text of the message `key` with its arguments filled in. -/
def format (key text : Text) (args : List Text) : Except CatalogFault Text :=
  match fill? text args with
  | some filled => .ok filled
  | none => .error (.tooFewArguments key)

end Message

/-- What a catalog holds under a key. -/
inductive CatalogUnit where
  /-- Another key, which this one stands for. -/
  | reference (key : Text)
  /-- The text in each language. -/
  | texts (byLanguage : List (Text × Text))
  deriving DecidableEq

/-- The entries of a catalog; the first under a key counts. -/
abbrev Catalog := List (Text × CatalogUnit)

namespace Catalog

/-- The entry under a key. -/
def unit? (catalog : Catalog) (key : Text) : Option CatalogUnit := catalog.lookup key

/-- Whether there is an entry under a key. -/
def has (catalog : Catalog) (key : Text) : Bool := (catalog.unit? key).isSome

/-- The entries of `upper` laid over those of `lower`: a key in both has its entry in `upper`. -/
def layeredOver (upper lower : Catalog) : Catalog := upper ++ lower

/-- The keys that a chain of aliases has yet to pass. -/
def unvisited (catalog : Catalog) (visited : List Text) : List Text :=
  (catalog.map (·.1)).filter fun key => !visited.contains key

theorem mem_keys_of_unit? {catalog : Catalog} {key : Text} {entry : CatalogUnit}
    (h : catalog.unit? key = some entry) : key ∈ catalog.map (·.1) := by
  induction catalog with
  | nil => simp [unit?] at h
  | cons head tail ih =>
    obtain ⟨k, e⟩ := head
    simp only [unit?, List.lookup_cons] at h
    by_cases hk : key == k
    · simp [eq_of_beq hk]
    · simp only [hk] at h
      exact List.mem_map.mpr (by
        obtain ⟨p, hp, rfl⟩ := List.mem_map.mp (ih h)
        exact ⟨p, List.mem_cons_of_mem _ hp, rfl⟩)

theorem unvisited_lt {catalog : Catalog} {visited : List Text} {key : Text} {entry : CatalogUnit}
    (hkey : catalog.unit? key = some entry) (hnew : visited.contains key = false) :
    (catalog.unvisited (visited ++ [key])).length < (catalog.unvisited visited).length := by
  have hsub : catalog.unvisited (visited ++ [key]) =
      (catalog.unvisited visited).filter (fun k => k != key) := by
    simp only [unvisited, List.filter_filter]
    congr 1
    funext k
    cases h : visited.contains k <;> cases h' : k == key <;>
      simp_all [List.contains_eq_mem, bne]
  rw [hsub]
  refine List.length_filter_lt_length_iff_exists.mpr ⟨key, ?_, by simp⟩
  simp only [unvisited, List.mem_filter]
  exact ⟨mem_keys_of_unit? hkey, by simpa using hnew⟩

/-- The texts at the end of the chain of aliases from `key`, and the key they stand under;
`visited` holds the keys passed before. -/
def follow (catalog : Catalog) (visited : List Text) (key : Text) :
    Except CatalogFault (Text × List (Text × Text)) :=
  if hnew : visited.contains key then .error (.aliasCycle key)
  else
    match hkey : catalog.unit? key with
    | none => .error (.unknownKey key)
    | some (.texts byLanguage) => .ok (key, byLanguage)
    | some (.reference next) =>
      -- every step visits one more of the keys, of which there are finitely many
      have := unvisited_lt hkey (by simpa using hnew)
      follow catalog (visited ++ [key]) next
termination_by (catalog.unvisited visited).length

/-- The text of a message in a language, with its arguments filled in. -/
def get (catalog : Catalog) (language key : Text) (args : List Text) :
    Except CatalogFault Text := do
  let (found, byLanguage) ← catalog.follow [] key
  match byLanguage.lookup language with
  | some text => Message.format found text args
  | none => .error (.unknownLanguage language found)

end Catalog

end FieldValidation
