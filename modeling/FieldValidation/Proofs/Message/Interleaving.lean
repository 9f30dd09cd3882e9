import Mathlib.Logic.ExistsUnique
import FieldValidation.Message.Catalog
import FieldValidation.Value.Written

/-!
# What a message is filled in to

The text of a message is read from left to right as units that stand for themselves, doubled percent
signs, and places for arguments. There is one way to read it, since a percent sign is taken together
with a sign or an `s` after it before anything else is looked at. What stands between the places
comes out as it is, a doubled percent sign as one, and the arguments are put into the places in
their order.

So literals come out as they are when their percent signs are doubled and places are put between
them, however many percent signs meet there and whatever the arguments have in them.

## Main definitions

* `Message.Reads`: a text read as tokens
* `Message.literals`: what stands between the places of a text
* `Message.interleave`: literals with arguments between them
* `Message.template`: the text that has given literals between its places

## Main results

* `Message.exists_reads`, `Message.Reads.unique`: each text is read in one way
* `Message.Reads.fill?_eq`: filling in a text puts the arguments between its literals
* `Message.reads_template`: what the text with given literals is read as
* `Message.format_interleaves`: messages with given literals, and messages in general
-/

namespace FieldValidation

namespace Message

/-- What the text of a message is made of. -/
inductive Token where
  /-- A unit that stands for itself. -/
  | literal (u : CodeUnit)
  /-- A doubled percent sign. -/
  | percent
  /-- A place for an argument. -/
  | place
  deriving DecidableEq

/-- A token as it stands in the text. -/
def Token.source : Token → Text
  | literal u => [u]
  | percent => [unit '%', unit '%']
  | place => [unit '%', unit 's']

/-- A unit stands for itself before `rest`: it is no percent sign that goes with what comes next. -/
def StandsAlone (u : CodeUnit) (rest : Text) : Prop :=
  u = unit '%' → ∀ v ∈ rest.head?, v ≠ unit '%' ∧ v ≠ unit 's'

/-- A text is read as tokens from left to right. -/
inductive Reads : Text → List Token → Prop
  | nil : Reads [] []
  | percent {rest : Text} {tokens : List Token} (hrest : Reads rest tokens) :
      Reads (unit '%' :: unit '%' :: rest) (.percent :: tokens)
  | place {rest : Text} {tokens : List Token} (hrest : Reads rest tokens) :
      Reads (unit '%' :: unit 's' :: rest) (.place :: tokens)
  | literal {u : CodeUnit} {rest : Text} {tokens : List Token} (hu : StandsAlone u rest)
      (hrest : Reads rest tokens) : Reads (u :: rest) (.literal u :: tokens)

variable {text : Text} {tokens : List Token}

/-! ## One way to read a text -/

theorem exists_reads : (text : Text) → ∃ tokens, Reads text tokens
  | [] => ⟨[], .nil⟩
  | [u] => ⟨[.literal u], .literal (fun _ _ hv => nomatch hv) .nil⟩
  | u :: v :: rest => by
    by_cases hpair : u = unit '%' ∧ (v = unit '%' ∨ v = unit 's')
    · obtain ⟨tokens, htokens⟩ := exists_reads rest
      obtain ⟨rfl, rfl | rfl⟩ := hpair
      · exact ⟨.percent :: tokens, .percent htokens⟩
      · exact ⟨.place :: tokens, .place htokens⟩
    · obtain ⟨tokens, htokens⟩ := exists_reads (v :: rest)
      refine ⟨.literal u :: tokens, .literal ?_ htokens⟩
      rintro rfl w hw
      obtain rfl := Option.some.inj hw
      exact ⟨fun h => hpair ⟨rfl, .inl h⟩, fun h => hpair ⟨rfl, .inr h⟩⟩

/-- A percent sign does not stand for itself before a sign or an `s`. -/
theorem not_standsAlone {v : CodeUnit} (hv : v = unit '%' ∨ v = unit 's') (rest : Text) :
    ¬ StandsAlone (unit '%') (v :: rest) := by
  intro h
  obtain ⟨hpercent, hplace⟩ := h rfl v rfl
  exact hv.elim hpercent hplace

theorem Reads.unique (h : Reads text tokens) {tokens' : List Token} (h' : Reads text tokens') :
    tokens' = tokens := by
  induction h generalizing tokens' with
  | nil => cases h'; rfl
  | percent hrest ih =>
    cases h' with
    | percent hrest' => rw [ih hrest']
    | literal hu hrest' => exact absurd hu (not_standsAlone (.inl rfl) _)
  | place hrest ih =>
    cases h' with
    | place hrest' => rw [ih hrest']
    | literal hu hrest' => exact absurd hu (not_standsAlone (.inr rfl) _)
  | literal hu hrest ih =>
    cases h' with
    | percent hrest' => exact absurd hu (not_standsAlone (.inl rfl) _)
    | place hrest' => exact absurd hu (not_standsAlone (.inr rfl) _)
    | literal hu' hrest' => rw [ih hrest']

/-- The tokens follow one another without anything between them. -/
theorem Reads.source_eq (h : Reads text tokens) : tokens.flatMap Token.source = text := by
  induction h with
  | nil => rfl
  | percent hrest ih | place hrest ih | literal hu hrest ih =>
    rw [List.flatMap_cons, ih]
    rfl

/-! ## Filling in a text -/

/-- What stands before the first place of a text, and what stands after each of its places. A
doubled percent sign counts as one. -/
def literals : List Token → Text × List Text
  | [] => ([], [])
  | .literal u :: rest => (u :: (literals rest).1, (literals rest).2)
  | .percent :: rest => (unit '%' :: (literals rest).1, (literals rest).2)
  | .place :: rest => ([], (literals rest).1 :: (literals rest).2)

/-- Literals with arguments between them, in their order. Arguments too many are left out. -/
def interleave (first : Text) (others args : List Text) : Text :=
  first ++ (List.zipWith (fun arg literal => arg ++ literal) args others).flatten

/-- The first argument comes before the second literal. -/
theorem append_interleave (arg first : Text) (others args : List Text) :
    arg ++ interleave first others args = interleave [] (first :: others) (arg :: args) := by
  simp [interleave]

/-- A doubled percent sign puts one before what the rest is filled in to. -/
theorem fill?_percent (rest : Text) (args : List Text) :
    fill? (unit '%' :: unit '%' :: rest) args = (fill? rest args).map (unit '%' :: ·) := by
  simp [fill?]

/-- A place takes the first argument. -/
theorem fill?_place (rest arg : Text) (args : List Text) :
    fill? (unit '%' :: unit 's' :: rest) (arg :: args) = (fill? rest args).map (arg ++ ·) := by
  have hne : unit 's' ≠ unit '%' := by decide
  simp [fill?, hne]

theorem fill?_place_nil (rest : Text) : fill? (unit '%' :: unit 's' :: rest) [] = none := by
  have hne : unit 's' ≠ unit '%' := by decide
  simp [fill?, hne]

/-- A unit that stands for itself is put before what the rest is filled in to. -/
theorem fill?_cons {u : CodeUnit} {rest : Text} (hu : StandsAlone u rest) (args : List Text) :
    fill? (u :: rest) args = (fill? rest args).map (u :: ·) := by
  cases rest with
  | nil => rfl
  | cons v rest =>
    have hpercent : ¬ (u = unit '%' ∧ v = unit '%') := fun h => (hu h.1 v rfl).1 h.2
    have hplace : ¬ (u = unit '%' ∧ v = unit 's') := fun h => (hu h.1 v rfl).2 h.2
    simp only [fill?, if_neg hpercent, if_neg hplace]

/-- A text is filled in with as many arguments as it has places, or more. -/
theorem Reads.fill?_eq (h : Reads text tokens) (args : List Text) :
    fill? text args =
      if (literals tokens).2.length ≤ args.length then
        some (interleave (literals tokens).1 (literals tokens).2 args)
      else none := by
  induction h generalizing args with
  | nil => simp [fill?, literals, interleave]
  | percent hrest ih =>
    rw [fill?_percent, ih, apply_ite (Option.map _)]
    rfl
  | place hrest ih =>
    cases args with
    | nil => exact fill?_place_nil _
    | cons arg args =>
      simp only [fill?_place, ih, apply_ite (Option.map _), Option.map_some, Option.map_none,
        literals, append_interleave, List.length_cons, Nat.add_le_add_iff_right]
  | literal hu hrest ih =>
    rw [fill?_cons hu, ih, apply_ite (Option.map _)]
    rfl

/-! ## Texts with given literals -/

/-- A literal with its percent signs doubled. -/
def escaped (literal : Text) : Text :=
  literal.flatMap fun u => if u = unit '%' then [u, u] else [u]

/-- The text that has the given literals between its places. -/
def template (first : Text) (others : List Text) : Text :=
  escaped first ++ others.flatMap fun literal => Token.place.source ++ escaped literal

/-- The tokens of a literal. -/
def tokensOf (literal : Text) : List Token :=
  literal.map fun u => if u = unit '%' then .percent else .literal u

/-- A literal is read by itself, whatever comes after it: its percent signs are paired. -/
theorem Reads.escaped_append (literal : Text) (h : Reads text tokens) :
    Reads (escaped literal ++ text) (tokensOf literal ++ tokens) := by
  induction literal with
  | nil => exact h
  | cons u rest ih =>
    unfold escaped tokensOf at ih ⊢
    rw [List.flatMap_cons, List.map_cons]
    by_cases hu : u = unit '%'
    · rw [if_pos hu, if_pos hu, hu]
      exact .percent ih
    · rw [if_neg hu, if_neg hu]
      exact .literal (fun h => absurd h hu) ih

theorem reads_template (first : Text) (others : List Text) :
    Reads (template first others)
      (tokensOf first ++ others.flatMap fun literal => .place :: tokensOf literal) := by
  refine .escaped_append first ?_
  induction others with
  | nil => exact .nil
  | cons literal rest ih =>
    rw [List.flatMap_cons, List.flatMap_cons, List.append_assoc]
    exact .place (.escaped_append literal ih)

theorem literals_tokensOf_append (literal : Text) (tokens : List Token) :
    literals (tokensOf literal ++ tokens) =
      (literal ++ (literals tokens).1, (literals tokens).2) := by
  induction literal with
  | nil => rfl
  | cons u rest ih =>
    unfold tokensOf at ih ⊢
    rw [List.map_cons, List.cons_append]
    by_cases hu : u = unit '%'
    · rw [if_pos hu, literals, ih, hu]
      rfl
    · rw [if_neg hu, literals, ih]
      rfl

/-- The literals that a text was made of stand between its places. -/
theorem literals_template (first : Text) (others : List Text) :
    literals (tokensOf first ++ others.flatMap fun literal => .place :: tokensOf literal) =
      (first, others) := by
  have hothers : literals (others.flatMap fun literal => .place :: tokensOf literal) =
      ([], others) := by
    induction others with
    | nil => rfl
    | cons literal rest ih =>
      rw [List.flatMap_cons, List.cons_append, literals, literals_tokensOf_append, ih]
      simp
  rw [literals_tokensOf_append, hothers, List.append_nil]

/-! ## Messages -/

theorem format_of_reads (key : Text) (h : Reads text tokens) (args : List Text) :
    format key text args =
      if (literals tokens).2.length ≤ args.length then
        .ok (interleave (literals tokens).1 (literals tokens).2 args)
      else .error (.tooFewArguments key) := by
  unfold format
  rw [h.fill?_eq]
  by_cases hcount : (literals tokens).2.length ≤ args.length
  · rw [if_pos hcount, if_pos hcount]
  · rw [if_neg hcount, if_neg hcount]

/-- **Arguments are put between literals.** A message with given literals, their percent signs
doubled and places between them, comes out as these literals with the arguments between them; those
too many are left out, and where there are too few the fault names the message. Any other text is
read as tokens from left to right in one way, with nothing left out and no percent sign taken twice,
and comes out so with the literals that stand between its places. -/
theorem format_interleaves (key : Text) :
    (∀ (first : Text) (others : List Text) (args : List Value),
      format key (template first others) (args.map Value.written) =
        if others.length ≤ args.length then
          .ok (interleave first others (args.map Value.written))
        else .error (.tooFewArguments key)) ∧
    ∀ text : Text, ∃! tokens, Reads text tokens ∧ tokens.flatMap Token.source = text ∧
      ∀ args : List Value, format key text (args.map Value.written) =
        if (literals tokens).2.length ≤ args.length then
          .ok (interleave (literals tokens).1 (literals tokens).2 (args.map Value.written))
        else .error (.tooFewArguments key) := by
  constructor
  · intro first others args
    rw [format_of_reads key (reads_template first others), literals_template, List.length_map]
  · intro text
    obtain ⟨tokens, htokens⟩ := exists_reads text
    refine ⟨tokens, ⟨htokens, htokens.source_eq, fun args => ?_⟩, fun _ h => htokens.unique h.1⟩
    rw [format_of_reads key htokens, List.length_map]

/-- Three percent signs before a place are a sign and a place; the one at the end stays; what an
argument has in it is not looked at. -/
example : fill? "100%%%s, 5%" [Text.ofString "%s%%$&"] = some (Text.ofString "100%%s%%$&, 5%") := by
  decide

end Message

end FieldValidation
