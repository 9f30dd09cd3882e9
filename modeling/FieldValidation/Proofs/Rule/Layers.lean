import Mathlib.Data.List.Induction
import FieldValidation.Proofs.Text.Lower
import FieldValidation.Proofs.Value.Enumeration
import FieldValidation.Rule.Registry

/-!
# Which rule has a name

The rules of an application are put over the built-in ones under the keys they come with, and only
then are all of them registered under their names in lower case. A key that is the name of a
built-in rule takes the place of that rule, so it comes before every other key, and each of these
comes where it is among the rules of the application. Of the keys that are one name up to case the
last registered has the name. It is the last of the application's, then, unless that is the key of
the built-in rule and there are others.

## Main definitions

* `Registry.variants`: the rules of an application that have a name, up to case
* `Registry.layers`: these in the order in which they are registered
* `Registry.place?`: where the rule of a name stands among the registered ones

## Main results

* `Registry.filter_merge`: the rules of a name, as they are merged
* `Registry.find?_ofRules`: the rule that has a name
* `Registry.ofRules_layered`: what is created of a name, and for which names it is one
-/

namespace FieldValidation

namespace Registry

variable {extra : Entries Rule} {name key : Text} {rule : Rule}

/-! ## Registering -/

theorem any_eq_isSome_lookup (rules : List (Text × Rule)) (name : Text) :
    rules.any (·.1 = name) = (rules.lookup name).isSome := by
  induction rules with
  | nil => rfl
  | cons entry rest ih =>
    rw [List.any_cons, List.lookup_cons, ih]
    by_cases heq : name = entry.1
    · simp [heq]
    · rw [beq_false_of_ne heq]
      simp [Ne.symm heq]

theorem lookup_map_replaced (rules : List (Text × Rule)) (name : Text) (rule : Rule) (key : Text) :
    (rules.map fun (n, r) => if n = name then (n, rule) else (n, r)).lookup key =
      if key = name then (rules.lookup key).map fun _ => rule else rules.lookup key := by
  induction rules with
  | nil => simp
  | cons entry rest ih =>
    obtain ⟨n, r⟩ := entry
    rw [List.map_cons, List.lookup_cons, List.lookup_cons, ih]
    by_cases hkey : key = n
    · by_cases hname : n = name <;> simp [hkey, hname]
    · have hfirst : (key == (if n = name then (n, rule) else (n, r)).1) = false := by
        split <;> simpa using hkey
      rw [hfirst, beq_false_of_ne hkey]

/-- What is registered under a name is its rule from then on; the other names keep theirs. -/
theorem lookup_register (rules : List (Text × Rule)) (name : Text) (rule : Rule) (key : Text) :
    (register rules name rule).lookup key = if key = name then some rule else rules.lookup key := by
  unfold register
  rw [any_eq_isSome_lookup]
  by_cases hkey : key = name
  · subst hkey
    split
    · next hthere =>
      obtain ⟨old, hold⟩ := Option.isSome_iff_exists.mp hthere
      rw [lookup_map_replaced, if_pos rfl, hold, Option.map_some, if_pos rfl]
    · next hnew =>
      rw [List.lookup_append, Option.not_isSome_iff_eq_none.mp hnew]
      simp
  · rw [if_neg hkey]
    split
    · rw [lookup_map_replaced, if_neg hkey]
    · rw [List.lookup_append, List.lookup_cons, beq_false_of_ne hkey, List.lookup_nil,
        Option.or_none]

/-- The rule of a name is the last of those that are registered under it. -/
theorem lookup_foldl_register (entries : Entries Rule) (key : Text) :
    (entries.foldl (fun rules (name, rule) => register rules (Text.toLower name) rule) []).lookup
        key = ((entries.filter fun entry => Text.toLower entry.1 = key).getLast?).map (·.2) := by
  induction entries using List.reverseRecOn with
  | nil => rfl
  | append_singleton init last ih =>
    rw [List.foldl_append, List.foldl_cons, List.foldl_nil, lookup_register, ih, List.filter_append]
    by_cases hkey : key = Text.toLower last.1
    · simp [hkey]
    · simp [hkey, Ne.symm hkey]

/-! ## The built-in names -/

theorem builtin_key (h : key ∈ Entries.keys builtinRules) :
    Text.toLower key = key ∧ positionOfKey? key = none := by
  have hall : ∀ key ∈ Entries.keys builtinRules,
      Text.toLower key = key ∧ positionOfKey? key = none := by
    decide +kernel
  exact hall key h

theorem enumerated_builtinRules : Entries.Enumerated builtinRules := by
  constructor
  · decide +kernel
  · have hall : (Entries.keys builtinRules).Pairwise fun k l => Entries.precedes l k = false := by
      decide +kernel
    exact hall

/-! ## Merging -/

/-- The built-in rules and those of an application over them, under the keys they come with. -/
def merge (extra : Entries Rule) : Entries Rule :=
  extra.foldl (fun rules (name, rule) => Entries.put rules name rule) builtinRules

theorem merge_concat (init : Entries Rule) (key : Text) (rule : Rule) :
    merge (init ++ [(key, rule)]) = Entries.put (merge init) key rule := by
  rw [merge, List.foldl_append]
  rfl

theorem enumerated_merge (extra : Entries Rule) : Entries.Enumerated (merge extra) :=
  Entries.enumerated_foldl_put extra enumerated_builtinRules

theorem mem_keys_merge :
    key ∈ Entries.keys (merge extra) ↔
      key ∈ Entries.keys builtinRules ∨ key ∈ Entries.keys extra := by
  induction extra using List.reverseRecOn with
  | nil => simp [merge, Entries.keys]
  | append_singleton init last ih =>
    have hkeys : Entries.keys (init ++ [last]) = Entries.keys init ++ [last.1] := List.map_append
    rw [merge_concat, Entries.mem_keys_put, ih, hkeys, List.mem_append, List.mem_singleton,
      or_left_comm, or_comm (a := key = last.1)]

/-- Whether a key is a name, up to case. -/
def isVariant (name key : Text) : Bool := Text.toLower key = Text.toLower name

/-- Whether a key is the name of a built-in rule. -/
def isBuiltin (key : Text) : Bool := Entries.contains builtinRules key

/-- The rules of an application that have a name, up to case. -/
def variants (extra : Entries Rule) (name : Text) : Entries Rule :=
  extra.filter (isVariant name ·.1)

/-- The rules of an application that have a name in the order in which they are registered: one
under the key of the built-in rule comes first. -/
def layers (extra : Entries Rule) (name : Text) : Entries Rule :=
  (variants extra name).filter (isBuiltin ·.1) ++ (variants extra name).filter (!isBuiltin ·.1)

/-- What stands under the name of a built-in rule once the rules are merged. -/
def builtinLayer (extra : Entries Rule) (name : Text) : Entries Rule :=
  ((Entries.find? builtinRules (Text.toLower name)).map fun rule =>
    (Text.toLower name,
      ((((variants extra name).filter (isBuiltin ·.1)).getLast?).map (·.2)).getD rule)).toList

theorem isBuiltin_iff : isBuiltin key = true ↔ key ∈ Entries.keys builtinRules :=
  Entries.contains_iff

/-- A built-in name is the lower-case form of its variants. -/
theorem eq_toLower_of_isVariant (hkey : isBuiltin key = true) (h : isVariant name key = true) :
    key = Text.toLower name := by
  rw [← (builtin_key (isBuiltin_iff.mp hkey)).1]
  exact of_decide_eq_true h

theorem variants_concat_of_pos (init : Entries Rule) (rule : Rule)
    (h : isVariant name key = true) :
    variants (init ++ [(key, rule)]) name = variants init name ++ [(key, rule)] := by
  simp [variants, h]

theorem variants_concat_of_neg (init : Entries Rule) (rule : Rule)
    (h : isVariant name key = false) :
    variants (init ++ [(key, rule)]) name = variants init name := by
  simp [variants, h]

theorem filter_builtinRules (name : Text) :
    builtinRules.filter (isVariant name ·.1) = builtinLayer [] name := by
  have hkeys : builtinRules.filter (isVariant name ·.1) =
      builtinRules.filter (·.1 = Text.toLower name) := by
    apply List.filter_congr
    intro e hmem
    have hlower := (builtin_key (List.mem_map_of_mem hmem)).1
    rw [isVariant, hlower]
  rw [hkeys, Entries.filter_key enumerated_builtinRules.distinct]
  rfl

section Concat

variable {init : Entries Rule}

/-- The rule of an application under a built-in name is the only one there. -/
theorem variants_filter_isBuiltin (hnew : key ∉ Entries.keys init) (hkey : isBuiltin key = true)
    (h : isVariant name key = true) : (variants init name).filter (isBuiltin ·.1) = [] := by
  apply List.filter_eq_nil_iff.mpr
  intro e hmem hbuiltin
  obtain ⟨hinit, hvariant⟩ := List.mem_filter.mp hmem
  apply hnew
  rw [eq_toLower_of_isVariant hkey h, ← eq_toLower_of_isVariant hbuiltin hvariant]
  exact List.mem_map_of_mem hinit

/-- A new key is enumerated after its variants: it comes after those of the application, and a
position, which would come before a built-in name, is no variant of one. -/
theorem precedes_variant (hlast : ∀ k ∈ Entries.keys init, Entries.precedes key k = false)
    (h : isVariant name key = true) :
    ∀ k ∈ Entries.keys (merge init), isVariant name k = true →
      Entries.precedes key k = false := by
  intro k hmem hvariant
  rcases mem_keys_merge.mp hmem with hbuiltin | hinit
  · cases hposition : positionOfKey? key with
    | none => exact Entries.precedes_of_not_position hposition
    | some n =>
      have hlower : Text.toLower key = key :=
        Text.toLower_of_digits (Entries.isDigit_of_position hposition)
      have hsame : k = key := by
        rw [eq_toLower_of_isVariant (isBuiltin_iff.mpr hbuiltin) hvariant, ← hlower]
        exact (of_decide_eq_true h).symm
      rw [← hsame, (builtin_key hbuiltin).2] at hposition
      cases hposition
  · exact hlast k hinit

end Concat

/-- The rules of a name, as they are merged: what takes the place of the built-in one, and then the
others of the application. -/
theorem filter_merge (h : extra.Enumerated) (name : Text) :
    (merge extra).filter (isVariant name ·.1) =
      builtinLayer extra name ++ (variants extra name).filter (!isBuiltin ·.1) := by
  induction extra using List.reverseRecOn with
  | nil =>
    rw [merge, List.foldl_nil, filter_builtinRules]
    exact (List.append_nil _).symm
  | append_singleton init last ih =>
    obtain ⟨key, rule⟩ := last
    obtain ⟨hinit, hnew, hlast⟩ := h.of_concat
    have hfilter := ih hinit
    rw [merge_concat]
    cases hvariant : isVariant name key with
    | false =>
      rw [Entries.filter_put_of_neg hvariant, hfilter, builtinLayer, builtinLayer,
        variants_concat_of_neg init rule hvariant]
    | true =>
      have hthere : Entries.contains (merge init) key = isBuiltin key := by
        apply Bool.eq_iff_iff.mpr
        rw [Entries.contains_iff, mem_keys_merge, isBuiltin_iff, or_iff_left hnew]
      rw [Entries.put, hthere, builtinLayer, variants_concat_of_pos init rule hvariant]
      cases hkey : isBuiltin key with
      | true =>
        have hname := eq_toLower_of_isVariant hkey hvariant
        have hnone := variants_filter_isBuiltin hnew hkey hvariant
        obtain ⟨old, hold⟩ := Option.isSome_iff_exists.mp hkey
        have hothers : key ∉ Entries.keys ((variants init name).filter (!isBuiltin ·.1)) := by
          intro hmem
          obtain ⟨e, he, rfl⟩ := List.mem_map.mp hmem
          have hnot := (List.mem_filter.mp he).2
          rw [hkey] at hnot
          cases hnot
        rw [if_pos rfl, Entries.filter_replace, hfilter, builtinLayer, hnone, ← hname, hold,
          List.filter_append, List.filter_append, hnone, Entries.replace_append,
          Entries.replace_of_not_mem hothers]
        simp [Entries.replace, hkey]
      | false =>
        rw [if_neg Bool.false_ne_true, Entries.filter_insertNew (enumerated_merge init).ordered
          (precedes_variant hlast hvariant) hvariant, hfilter, builtinLayer]
        simp [hkey]

/-! ## The rule of a name -/

/-- The rule of a name is the last of its layers, or else the built-in one. -/
theorem find?_ofRules (checks : Checks) (h : extra.Enumerated) (name : Text) :
    (ofRules checks extra).find? name =
      (((layers extra name).getLast?).map (·.2)).or
        (Entries.find? builtinRules (Text.toLower name)) := by
  have hfind : (ofRules checks extra).find? name =
      (((merge extra).filter (isVariant name ·.1)).getLast?).map (·.2) :=
    lookup_foldl_register (merge extra) (Text.toLower name)
  rw [hfind, filter_merge h, layers, builtinLayer, List.getLast?_append, List.getLast?_append]
  cases ((variants extra name).filter (!isBuiltin ·.1)).getLast? with
  | some last => rfl
  | none =>
    rw [Option.none_or, Option.none_or]
    cases hbuiltin : Entries.find? builtinRules (Text.toLower name) with
    | some rule =>
      cases ((variants extra name).filter (isBuiltin ·.1)).getLast? <;> rfl
    | none =>
      cases hlayer : ((variants extra name).filter (isBuiltin ·.1)).getLast? with
      | none => rfl
      | some e =>
        obtain ⟨hmem, hkey⟩ := List.mem_filter.mp (List.mem_of_getLast? hlayer)
        have hname := eq_toLower_of_isVariant hkey (List.mem_filter.mp hmem).2
        rw [isBuiltin, hname, Entries.contains, hbuiltin] at hkey
        cases hkey

/-- Where the rule of a name stands among the registered ones; there each has a place of its own. -/
def place? (registry : Registry) (name : Text) : Option Nat :=
  registry.rules.findIdx? (·.1 = Text.toLower name)

/-- The rule that is registered at a place. -/
def at? (registry : Registry) (place : Nat) : Option Rule := (registry.rules[place]?).map (·.2)

theorem find?_eq_at?_place? (registry : Registry) (name : Text) :
    registry.find? name = (registry.place? name).bind registry.at? := by
  have hlookup (rules : List (Text × Rule)) (key : Text) : rules.lookup key =
      (rules.findIdx? (·.1 = key)).bind fun place => (rules[place]?).map (·.2) := by
    induction rules with
    | nil => rfl
    | cons entry rest ih =>
      rw [List.lookup_cons, List.findIdx?_cons]
      by_cases heq : entry.1 = key
      · simp [heq]
      · rw [beq_false_of_ne (Ne.symm heq), if_neg (by simpa using heq), Option.bind_map]
        exact ih
  exact hlookup registry.rules (Text.toLower name)

theorem toLower_eq_of_place? {registry : Registry} {other : Text} {place : Nat}
    (h : registry.place? name = some place) (hother : registry.place? other = some place) :
    Text.toLower other = Text.toLower name := by
  obtain ⟨_, hname, -⟩ := List.findIdx?_eq_some_iff_getElem.mp h
  obtain ⟨_, hname', -⟩ := List.findIdx?_eq_some_iff_getElem.mp hother
  exact (of_decide_eq_true hname').symm.trans (of_decide_eq_true hname)

/-- What is created of a name is the rule of the last entry of the application that has the name up
to case, one under the key of the built-in rule coming before the others, or else the built-in rule.
There is such a rule just where something is created. It is the one in the place of the name, and
the names that have this place are those that are the name up to case. -/
theorem ofRules_layered (checks : Checks) (h : extra.Enumerated) (wording : Wording)
    (hname : name ≠ []) :
    let registry := ofRules checks extra
    registry.get? wording name =
        .ok ((((layers extra name).getLast?).map (·.2)).or
          (Entries.find? builtinRules (Text.toLower name))) ∧
      (registry.has name = true ↔ ∃ rule, registry.get? wording name = .ok (some rule)) ∧
      registry.get? wording name = .ok ((registry.place? name).bind registry.at?) ∧
      (∀ other, Text.toLower other = Text.toLower name →
        registry.place? other = registry.place? name) ∧
      ∀ other place, registry.place? name = some place → registry.place? other = some place →
        Text.toLower other = Text.toLower name := by
  intro registry
  have hget : registry.get? wording name = .ok (registry.find? name) := by
    unfold get?
    rw [if_neg hname]
    rfl
  refine ⟨?_, ?_, ?_, ?_, fun other place hplace hother => toLower_eq_of_place? hplace hother⟩
  · rw [hget, find?_ofRules checks h]
  · rw [hget, has, Option.isSome_iff_exists]
    simp
  · rw [hget, find?_eq_at?_place?]
  · intro other hcase
    rw [place?, place?, hcase]

/-- A rule that is known by its label and accepts everything. -/
def labelled (label : Text) : Rule := .application ⟨label, fun _ _ _ _ => .ok ()⟩

/-- Three rules with one name up to case: the last has it, although the one before it is under the
key of the built-in rule. -/
theorem ofRules_layered_variants :
    let extra : Entries Rule := [("STRING", labelled "first"), ("string", labelled "second"),
      ("String", labelled "third")]
    let registry := ofRules (Checks.standard 2024) extra
    extra.Enumerated ∧ registry.place? "string" = registry.place? "sTRING" ∧
      ∀ wording, registry.get? wording "sTRING" = .ok (some (labelled "third")) := by
  intro extra registry
  have hextra : extra.Enumerated := by
    have hordered : (Entries.keys extra).Pairwise fun k l => Entries.precedes l k = false := by
      decide +kernel
    exact ⟨by decide +kernel, hordered⟩
  have hlast : ((layers extra "sTRING").getLast?).map (·.2) = some (labelled "third") := by
    rfl
  have hname : Text.ofString "sTRING" ≠ [] := by decide
  refine ⟨hextra, ?_, fun wording => ?_⟩
  · have hlayered := ofRules_layered (Checks.standard 2024) hextra
      (Wording.bundled Phrase.bundledLanguage) hname
    exact hlayered.2.2.2.1 "string" (by decide +kernel)
  · have hlayered := ofRules_layered (Checks.standard 2024) hextra wording hname
    rw [hlayered.1, hlast]
    rfl

/-- The last rule of an application with a name does not have it where it is under the key of the
built-in rule and there are others. -/
theorem not_ofRules_layered :
    let extra : Entries Rule :=
      [("STRING", labelled "NeverRule"), ("string", labelled "AcceptRule")]
    let wording := Wording.bundled Phrase.bundledLanguage
    extra.Enumerated ∧
      ¬ (ofRules (Checks.standard 2024) extra).get? wording "string" =
        .ok ((((variants extra "string").getLast?).map (·.2)).or
          (Entries.find? builtinRules (Text.toLower "string"))) := by
  intro extra wording
  have hextra : extra.Enumerated := by
    have hordered : (Entries.keys extra).Pairwise fun k l => Entries.precedes l k = false := by
      decide +kernel
    exact ⟨by decide +kernel, hordered⟩
  refine ⟨hextra, ?_⟩
  intro hclaimed
  have hfound : (ofRules (Checks.standard 2024) extra).find? "string" =
      some (labelled "NeverRule") := by
    rw [find?_ofRules _ hextra]
    rfl
  have hget : (ofRules (Checks.standard 2024) extra).get? wording "string" =
      .ok (some (labelled "NeverRule")) := congrArg Except.ok hfound
  rw [hget] at hclaimed
  have hrule : Option.some (labelled "NeverRule") = some (labelled "AcceptRule") :=
    Except.ok.inj hclaimed
  simp only [labelled, Option.some.injEq, Rule.application.injEq, ApplicationRule.mk.injEq,
    and_true] at hrule
  exact absurd hrule (by decide)

end Registry

end FieldValidation
