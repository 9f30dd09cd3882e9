import FieldValidation.Proofs.Failure.Kinds

/-!
# Which phrases can be told

A phrase can be told where the catalog has a text for it that can be filled in. Whether a text can
be filled in depends on the number of its arguments and not on what they are.

## Main definitions

* `Wording.Tells`: there is a text for a phrase
* `Phrase.arity`: how many arguments a phrase is told with

## Main results

* `Message.isSome_fill?_congr`: the arguments themselves do not count
* `Wording.tells_of_follow`: a text that is found and can be filled in
* `Wording.say_of_not_tells`: what cannot be told is the fault of the catalog
* `Wording.bundled_tells`, `Wording.bundled_say_of_ne`: the texts that come with the library tell
  every phrase in their language, and none in another
-/

namespace FieldValidation

/-- There is a text for a phrase with some number of arguments. -/
def Wording.Tells (wording : Wording) (phrase : Phrase) (count : Nat) : Prop :=
  ∀ args : List Text, args.length = count → ∃ text, wording.say phrase args = .ok text

/-- How many arguments a phrase is told with: the field where it is about one, and what else there
is to say. -/
def Phrase.arity : Phrase → Nat
  | .ruleMustBeNonEmpty | .requiredWithoutCannotReferenceItself
  | .requiredWithoutRequiresFieldName | .numericInvalidParam | .integerInvalidParam
  | .minRequiresNumber | .maxRequiresNumber | .minLengthRequiresInteger
  | .maxLengthRequiresInteger | .regexRequiresPattern | .datetimeRequiresFormat
  | .enumRequiresValues => 0
  | .unknownRule | .requiredFieldMissing | .requiredRuleInvokedDirectly | .fieldMustBeNumeric
  | .fieldMustBeAnInteger | .fieldMustBeAString | .fieldMustBeAnEmail
  | .fieldFailedCustomValidation | .fieldDoesNotExist | .rulesetInvalid => 1
  | .onlyOneOfFieldsCanBePresent | .eitherFieldOrOtherMustBePresent | .fieldMinValue
  | .fieldMaxValue | .fieldMinLength | .fieldMaxLength | .fieldMustMatchPattern
  | .fieldMustMatchDatetimeFormat | .fieldMustBeOneOf => 2

/-- Whether a text can be filled in depends on the number of arguments only. -/
theorem Message.isSome_fill?_congr {text : Text} {args args' : List Text}
    (h : args.length = args'.length) : (fill? text args).isSome = (fill? text args').isSome := by
  fun_induction fill? text args generalizing args' with
  | case1 => rfl
  | case2 => rfl
  | case3 args u v rest hpercent ih =>
    simp only [fill?, if_pos hpercent, Option.isSome_map, ih h]
  | case4 u v rest hpercent hplace =>
    obtain rfl : args' = [] := List.eq_nil_of_length_eq_zero h.symm
    simp only [fill?, if_neg hpercent, if_pos hplace]
  | case5 u v rest hpercent hplace a as ih =>
    cases args' with
    | nil => cases h
    | cons a' as' =>
      simp only [fill?, if_neg hpercent, if_pos hplace, Option.isSome_map, ih (Nat.succ.inj h)]
  | case6 args u v rest hpercent hplace ih =>
    simp only [fill?, if_neg hpercent, if_neg hplace, Option.isSome_map, ih h]

/-- A phrase whose text is found can be told where the text can be filled in. -/
theorem Wording.tells_of_follow {wording : Wording} {phrase : Phrase} {count : Nat}
    {found : Text} {byLanguage : List (Text × Text)} (text : Text)
    (hfollow : wording.catalog.follow [] phrase.key = .ok (found, byLanguage))
    (htext : byLanguage.lookup wording.language = some text)
    (hfill : (Message.fill? text (List.replicate count [])).isSome = true) :
    wording.Tells phrase count := by
  intro args hargs
  have hsome : (Message.fill? text args).isSome = true := by
    have hlength : args.length = (List.replicate count ([] : Text)).length := by simp [hargs]
    rw [Message.isSome_fill?_congr hlength]
    exact hfill
  obtain ⟨filled, hfilled⟩ := Option.isSome_iff_exists.mp hsome
  have hget : wording.catalog.get wording.language phrase.key args = .ok filled := by
    simp [Catalog.get, hfollow, bind, Except.bind, htext, Message.format, hfilled]
  refine ⟨filled, ?_⟩
  rw [say, hget]
  rfl

/-- A phrase that is told with some arguments can be told with as many others. -/
theorem Wording.tells_of_say {wording : Wording} {phrase : Phrase} {args : List Text} {text : Text}
    (h : wording.say phrase args = .ok text) : wording.Tells phrase args.length := by
  unfold say at h
  cases hfollow : wording.catalog.follow [] phrase.key with
  | error fault => simp only [Catalog.get, hfollow, bind, Except.bind] at h; cases h
  | ok found =>
    obtain ⟨key, byLanguage⟩ := found
    cases htext : byLanguage.lookup wording.language with
    | none => simp only [Catalog.get, hfollow, bind, Except.bind, htext] at h; cases h
    | some own =>
      refine tells_of_follow own hfollow htext ?_
      rw [← Message.isSome_fill?_congr (List.length_replicate ..).symm]
      simp only [Catalog.get, hfollow, bind, Except.bind, htext, Message.format] at h
      cases hfill : Message.fill? own args with
      | none => rw [hfill] at h; cases h
      | some filled => rfl

/-- A phrase that cannot be told with some number of arguments is, with any such arguments, the
fault of the catalog. -/
theorem Wording.say_of_not_tells {wording : Wording} {phrase : Phrase} {count : Nat}
    (h : ¬ wording.Tells phrase count) {args : List Text} (hargs : args.length = count) :
    ∃ fault, wording.say phrase args = .error (.catalog fault) := by
  cases hsay : wording.say phrase args with
  | ok text => exact absurd (hargs ▸ tells_of_say hsay) h
  | error failure =>
    obtain ⟨fault, rfl⟩ := exists_of_say_eq_error hsay
    exact ⟨fault, rfl⟩

/-! ## The texts that come with the library -/

theorem Catalog.follow_of_texts {catalog : Catalog} {key : Text} {byLanguage : List (Text × Text)}
    (h : catalog.unit? key = some (.texts byLanguage)) :
    catalog.follow [] key = .ok (key, byLanguage) := by
  unfold follow
  rw [dif_neg (by simp)]
  split
  · next hnone =>
    rw [hnone] at h
    cases h
  · next found htexts =>
    rw [htexts] at h
    cases h
    rfl
  · next hother =>
    rw [hother] at h
    cases h

/-- Where no two entries have one key, each is found under its own. -/
theorem Catalog.unit?_of_mem {catalog : Catalog} {key : Text} {entry : CatalogUnit}
    (hkeys : (catalog.map (·.1)).Nodup) (h : (key, entry) ∈ catalog) :
    catalog.unit? key = some entry := by
  obtain ⟨before, after, rfl⟩ := List.append_of_mem h
  rw [List.map_append, List.map_cons, List.nodup_append] at hkeys
  obtain ⟨-, -, hbefore⟩ := hkeys
  refine List.lookup_eq_some_iff.mpr ⟨before, after, rfl, fun e he => ?_⟩
  exact bne_iff_ne.mpr (hbefore _ (List.mem_map_of_mem he) key List.mem_cons_self).symm

theorem Phrase.mem_all (phrase : Phrase) : phrase ∈ all := by
  cases phrase <;> decide

theorem Catalog.nodup_keys_bundled : (bundled.map (·.1)).Nodup := by
  simp only [bundled, Phrase.all, List.map, Phrase.catalogUnit, Phrase.key, Text.ofString]
  repeat rw [String.toList_ofList]
  decide +kernel

theorem Catalog.follow_bundled (phrase : Phrase) :
    bundled.follow [] phrase.key =
      .ok (phrase.key, [(Phrase.bundledLanguage, phrase.english)]) := by
  have hmem : phrase.catalogUnit ∈ bundled :=
    List.mem_cons_of_mem _ (List.mem_map_of_mem phrase.mem_all)
  exact follow_of_texts (unit?_of_mem nodup_keys_bundled hmem)

/-- The English text of a phrase can be filled in. -/
theorem Phrase.isSome_fill?_english (phrase : Phrase) :
    (Message.fill? phrase.english (List.replicate phrase.arity [])).isSome = true := by
  cases phrase <;>
    · rw [english, Text.ofString, String.toList_ofList]
      decide +kernel

/-- Every phrase has its English text, which can be filled in. -/
theorem Wording.bundled_tells (phrase : Phrase) :
    (Wording.bundled Phrase.bundledLanguage).Tells phrase phrase.arity :=
  tells_of_follow phrase.english (Catalog.follow_bundled phrase) (by simp [Wording.bundled])
    phrase.isSome_fill?_english

/-- In any other language there is no text. -/
theorem Wording.bundled_say_of_ne {language : Text} (h : language ≠ Phrase.bundledLanguage)
    (phrase : Phrase) (args : List Text) :
    (Wording.bundled language).say phrase args =
      .error (.catalog (.unknownLanguage language phrase.key)) := by
  have hnone : [(Phrase.bundledLanguage, phrase.english)].lookup language = none := by
    simp [List.lookup_cons, beq_eq_false_iff_ne.mpr h]
  have hget : Catalog.bundled.get language phrase.key args =
      .error (.unknownLanguage language phrase.key) := by
    simp only [Catalog.get, Catalog.follow_bundled, bind, Except.bind, hnone]
  simp only [say, bundled, hget]
  rfl

theorem Wording.bundled_not_tells {language : Text} (h : language ≠ Phrase.bundledLanguage)
    (phrase : Phrase) (count : Nat) : ¬ (Wording.bundled language).Tells phrase count := by
  intro htells
  obtain ⟨text, hsay⟩ := htells (List.replicate count []) (List.length_replicate ..)
  rw [bundled_say_of_ne h] at hsay
  cases hsay

end FieldValidation
