import Mathlib
import FieldValidation.Proofs.Regex.CharacterSets
import FieldValidation.Proofs.Regex.Units
import FieldValidation.Proofs.Rule.Parsing
import FieldValidation.Rule.Checks

/-!
# Email addresses

An email address is a text with one `@` and no blanks, with something before the `@` and with a dot
after it that is neither first nor last there. Such a text may have several such dots, so that the
pattern of an address can match it in several ways. Both the scan for addresses and the pattern
accept a text just where it can be cut, at its `@` and at some dot after it, into three parts that
are neither empty nor hold a blank or an `@`.

## Main definitions

* `Text.IsAddress`: an address, by where its `@` and its dots stand
* `Text.IsAddressPart`: what stands between the `@` and the dot and around them
* `addressPattern`: the pattern of an address

## Main results

* `Text.isEmailAddress_iff_parts`: the scan, by the parts of an address
* `Text.isAddress_iff_parts`: the places of an address, by its parts
* `Regex.finds_address_iff_parts`: the pattern, by the parts of an address
* `Value.isEmailAddress_iff_isAddress`: the values that are addresses
-/

namespace FieldValidation

namespace Text

variable {t mailbox domain : Text} {u : CodeUnit}

/-- An email address: one `@`, no blanks, something before the `@`, and after it a dot that is
neither first nor last. -/
structure IsAddress (t : Text) : Prop where
  one_at : t.count (unit '@') = 1
  unblank : ∀ u ∈ t, u.isBlank = false
  split : ∃ mailbox domain, t = mailbox ++ unit '@' :: domain ∧ mailbox ≠ [] ∧
    ∃ place, 0 < place ∧ place + 1 < domain.length ∧ domain[place]? = some (unit '.')

/-- A part of an address: it is not empty, and holds neither blanks nor an `@`. -/
def IsAddressPart (t : Text) : Prop := t ≠ [] ∧ ∀ u ∈ t, isAddressUnit u = true

/-- A text that is cut into the parts of an address. -/
def HasAddressParts (t : Text) : Prop :=
  ∃ mailbox name ending, t = mailbox ++ unit '@' :: (name ++ unit '.' :: ending) ∧
    IsAddressPart mailbox ∧ IsAddressPart name ∧ IsAddressPart ending

theorem isAddressUnit_iff : isAddressUnit u = true ↔ u.isBlank = false ∧ u ≠ unit '@' := by
  simp [isAddressUnit]

theorem isAddressUnit_dot : isAddressUnit (unit '.') = true := by decide

/-! ## Dots inside -/

/-- A dot inside a text has something before it and something after it. -/
theorem mem_inside_iff : u ∈ (t.drop 1).dropLast ↔ ∃ p q, t = p ++ u :: q ∧ p ≠ [] ∧ q ≠ [] := by
  constructor
  · intro h
    cases t with
    | nil => cases h
    | cons v rest =>
      obtain ⟨p, q, hparts⟩ := List.append_of_mem h
      have hrest : rest ≠ [] := by
        rintro rfl
        cases h
      refine ⟨v :: p, q ++ [rest.getLast hrest], ?_, by simp, by simp⟩
      have hdrop : rest.dropLast = p ++ u :: q := hparts
      calc v :: rest = v :: (rest.dropLast ++ [rest.getLast hrest]) := by
            rw [List.dropLast_concat_getLast]
        _ = (v :: p) ++ u :: (q ++ [rest.getLast hrest]) := by
            rw [hdrop]
            simp
  · rintro ⟨p, q, rfl, hp, hq⟩
    obtain ⟨v, p, rfl⟩ := List.exists_cons_of_ne_nil hp
    have hne : u :: q ≠ [] := by simp
    have hmem : u ∈ (u :: q).dropLast := by
      rw [List.dropLast_cons_of_ne_nil hq]
      exact List.mem_cons_self ..
    change u ∈ (p ++ u :: q).dropLast
    rw [List.dropLast_append_of_ne_nil hne]
    exact List.mem_append_right _ hmem

/-- A place inside a text has something before it and something after it. -/
theorem place_inside_iff :
    (∃ place, 0 < place ∧ place + 1 < t.length ∧ t[place]? = some u) ↔
      ∃ p q, t = p ++ u :: q ∧ p ≠ [] ∧ q ≠ [] := by
  constructor
  · rintro ⟨place, hpos, hlt, hu⟩
    obtain ⟨hplace, rfl⟩ := List.getElem?_eq_some_iff.mp hu
    refine ⟨t.take place, t.drop (place + 1), ?_, ?_, ?_⟩
    · rw [List.getElem_cons_drop, List.take_append_drop]
    · exact List.ne_nil_of_length_pos (by rw [List.length_take]; omega)
    · exact List.ne_nil_of_length_pos (by rw [List.length_drop]; omega)
  · rintro ⟨p, q, rfl, hp, hq⟩
    refine ⟨p.length, List.length_pos_iff.mpr hp, ?_, by simp⟩
    have hlength := List.length_pos_iff.mpr hq
    simp only [List.length_append, List.length_cons]
    omega

/-! ## The parts of an address -/

/-- The units of both parts of a text with an `@` between them, of which the second has a dot
inside, make it an address. -/
theorem hasAddressParts_iff :
    HasAddressParts t ↔
      ∃ mailbox domain, t = mailbox ++ unit '@' :: domain ∧ IsAddressPart mailbox ∧
        (∀ u ∈ domain, isAddressUnit u = true) ∧
        ∃ name ending, domain = name ++ unit '.' :: ending ∧ name ≠ [] ∧ ending ≠ [] := by
  constructor
  · rintro ⟨mailbox, name, ending, rfl, hmailbox, hname, hending⟩
    refine ⟨mailbox, _, rfl, hmailbox, ?_, name, ending, rfl, hname.1, hending.1⟩
    exact List.forall_mem_append.mpr
      ⟨hname.2, List.forall_mem_cons.mpr ⟨isAddressUnit_dot, hending.2⟩⟩
  · rintro ⟨mailbox, _, rfl, hmailbox, hunits, name, ending, rfl, hname, hending⟩
    obtain ⟨hname', hdot⟩ := List.forall_mem_append.mp hunits
    exact ⟨mailbox, name, ending, rfl, hmailbox, ⟨hname, hname'⟩, hending,
      (List.forall_mem_cons.mp hdot).2⟩

theorem at_not_mem_of_units (h : ∀ u ∈ t, isAddressUnit u = true) : unit '@' ∉ t := fun hmem =>
  (isAddressUnit_iff.mp (h _ hmem)).2 rfl

/-- What the scan for addresses accepts. -/
theorem isEmailAddress_iff_parts : isEmailAddress t = true ↔ HasAddressParts t := by
  rw [hasAddressParts_iff]
  unfold isEmailAddress
  constructor
  · intro h
    cases hsplit : splitFirst? (unit '@') t with
    | none => simp [hsplit] at h
    | some parts =>
      obtain ⟨mailbox, domain⟩ := parts
      simp only [hsplit, Bool.and_eq_true, Bool.not_eq_true', List.isEmpty_eq_false_iff,
        List.all_eq_true, List.contains_iff_mem, mem_inside_iff] at h
      obtain ⟨⟨⟨hsome, hmailbox⟩, hdomain⟩, hdot⟩ := h
      exact ⟨mailbox, domain, eq_of_splitFirst? hsplit, ⟨hsome, hmailbox⟩, hdomain, hdot⟩
  · rintro ⟨mailbox, domain, rfl, ⟨hsome, hmailbox⟩, hdomain, hdot⟩
    rw [splitFirst?_append (at_not_mem_of_units hmailbox)]
    simp only [Bool.and_eq_true, Bool.not_eq_true', List.isEmpty_eq_false_iff,
      List.all_eq_true, List.contains_iff_mem, mem_inside_iff]
    exact ⟨⟨⟨hsome, hmailbox⟩, hdomain⟩, hdot⟩

/-- The places of an address cut it into its parts. -/
theorem isAddress_iff_parts : IsAddress t ↔ HasAddressParts t := by
  rw [hasAddressParts_iff]
  constructor
  · rintro ⟨hone, hunblank, mailbox, domain, rfl, hsome, hdot⟩
    rw [List.count_append, List.count_cons_self] at hone
    have hmailbox : unit '@' ∉ mailbox := List.count_eq_zero.mp (by omega)
    have hdomain : unit '@' ∉ domain := List.count_eq_zero.mp (by omega)
    obtain ⟨hbefore, hafter⟩ := List.forall_mem_append.mp hunblank
    refine ⟨mailbox, domain, rfl, ⟨hsome, fun u hu => ?_⟩, fun u hu => ?_,
      place_inside_iff.mp hdot⟩
    · exact isAddressUnit_iff.mpr ⟨hbefore u hu, ne_of_mem_of_not_mem hu hmailbox⟩
    · exact isAddressUnit_iff.mpr
        ⟨hafter u (List.mem_cons_of_mem _ hu), ne_of_mem_of_not_mem hu hdomain⟩
  · rintro ⟨mailbox, domain, rfl, ⟨hsome, hmailbox⟩, hdomain, hdot⟩
    refine ⟨?_, ?_, mailbox, domain, rfl, hsome, place_inside_iff.mpr hdot⟩
    · rw [List.count_append, List.count_cons_self,
        List.count_eq_zero.mpr (at_not_mem_of_units hmailbox),
        List.count_eq_zero.mpr (at_not_mem_of_units hdomain)]
    · have hbefore : ∀ u ∈ mailbox, u.isBlank = false := fun u hu =>
        (isAddressUnit_iff.mp (hmailbox u hu)).1
      have hafter : ∀ u ∈ domain, u.isBlank = false := fun u hu =>
        (isAddressUnit_iff.mp (hdomain u hu)).1
      have hat : (unit '@').isBlank = false := by decide
      exact List.forall_mem_append.mpr ⟨hbefore, List.forall_mem_cons.mpr ⟨hat, hafter⟩⟩

end Text

/-! ## The pattern -/

/-- The pattern of an address. -/
def addressPattern : Text := Text.ofString "^[^\\s@]+@[^\\s@]+\\.[^\\s@]+$"

namespace Regex

variable {s : Subject} {before t after : Text}

/-- The characters of the parts of an address. -/
def addressCharacters : CharacterSet :=
  (CharacterSet.ofRanges (blanks ++ CharacterSet.single (unit '@').toNat)).complement

/-- A part of an address, in the pattern. -/
def addressPart : Node := .repetition (.characters addressCharacters) 1 none true 1 1

/-- The pattern of an address as it is read. -/
def address : Regex where
  flags := .none
  node := .inTurn (.anchor .start :: ([addressPart, .characters (.single (unit '@').toNat),
    addressPart, .characters (.single (unit '.').toNat), addressPart] ++ [.anchor .finish]))
  groupCount := 0

theorem compile?_addressPattern : compile? addressPattern [] = some address := by cbv

theorem isPlain_address : address.node.IsPlain := by
  unfold address addressPart
  simp [Node.inTurn, Node.IsPlain]

theorem has_addressCharacters (u : CodeUnit) :
    addressCharacters.has u.toNat = true ↔ Text.isAddressUnit u = true := by
  have hapart : CharacterSet.IsApart
      (CharacterSet.ofRanges (blanks ++ CharacterSet.single (unit '@').toNat)) :=
    CharacterSet.isApart_ofRanges (by decide)
  have hc : u.toNat ≤ CharacterSet.maxCodePoint := by
    have hlt := u.toNat_lt
    unfold CharacterSet.maxCodePoint
    omega
  rw [addressCharacters, CharacterSet.has_complement hapart hc, CharacterSet.has_ofRanges,
    Bool.not_eq_true', ← Bool.not_eq_true, CharacterSet.has_append_iff, has_blanks,
    has_single_iff, Text.isAddressUnit_iff, not_or, Bool.not_eq_true]

theorem spans_addressPart_iff :
    Spans s addressPart before t after ↔ Text.IsAddressPart t := by
  rw [addressPart, spans_someRun_iff]
  simp only [has_addressCharacters]
  rfl

/-- What the pattern of an address takes. -/
theorem finds_address_iff_parts : address.Finds t ↔ Text.HasAddressParts t := by
  rw [finds_iff_spans rfl rfl rfl]
  simp only [spans_cons_iff, spans_nil_iff, spans_addressPart_iff, spans_single_iff]
  constructor
  · rintro ⟨mailbox, _, rfl, hmailbox, _, _, rfl, rfl, name, _, rfl, hname, _, _, rfl, rfl,
      ending, _, rfl, hending, rfl⟩
    exact ⟨mailbox, name, ending, by simp, hmailbox, hname, hending⟩
  · rintro ⟨mailbox, name, ending, rfl, hmailbox, hname, hending⟩
    exact ⟨mailbox, _, rfl, hmailbox, [unit '@'], _, rfl, rfl, name, _, rfl, hname, [unit '.'], _,
      rfl, rfl, ending, [], by simp, hending, rfl⟩

end Regex

/-! ## The values that are addresses -/

/-- The values that are email addresses are the texts with one `@` and no blanks, with something
before the `@` and with a dot after it that is neither first nor last; and these are the texts in
which the pattern of an address is found, by every search with enough steps, while a search that is
given up finds no others. -/
theorem Value.isEmailAddress_iff_isAddress :
    (∀ t : Text, Value.isEmailAddress (.text t) = true ↔ t.IsAddress) ∧
    (∀ v : Value, v.isEmailAddress = true → ∃ t, v = .text t) ∧
    ∃ regex, Regex.compile? addressPattern [] = some regex ∧ ∀ t : Text,
      (regex.Finds t ↔ t.IsAddress) ∧ (regex.test t = true → t.IsAddress) ∧
      ∃ enough, ∀ steps, enough ≤ steps → (regex.testWithin steps t = true ↔ t.IsAddress) := by
  refine ⟨fun t => ?_, fun v hv => ?_, Regex.address, Regex.compile?_addressPattern, fun t => ?_⟩
  · exact Text.isEmailAddress_iff_parts.trans Text.isAddress_iff_parts.symm
  · cases v with
    | text t => exact ⟨t, rfl⟩
    | _ => cases hv
  · have hfinds : Regex.address.Finds t ↔ t.IsAddress :=
      Regex.finds_address_iff_parts.trans Text.isAddress_iff_parts.symm
    obtain ⟨enough, htest⟩ := Regex.exists_testWithin_iff Regex.isPlain_address t
    have hfound : Regex.address.test t = true → t.IsAddress := fun htest =>
      hfinds.mp (Regex.finds_of_test Regex.isPlain_address htest)
    exact ⟨hfinds, hfound, enough, fun steps hsteps => (htest steps hsteps).trans hfinds⟩

end FieldValidation
