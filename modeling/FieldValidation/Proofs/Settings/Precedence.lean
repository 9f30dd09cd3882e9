import FieldValidation.Proofs.Text.CodePoints
import FieldValidation.Settings.Sources
import Mathlib.Data.List.Induction
import Mathlib.Data.List.TakeWhile

/-!
# Which setting counts

Settings only fill in variables that are not set, so what comes first stays: the variables of the
environment, then the entries of the first configuration file that can be used, then the setting
lines. Of several entries for one variable the first counts. What has been filled in is set from
then on, so loading once more changes nothing.

An entry is for the variable whose name the environment makes of its key, and what is filled in is
what the environment makes of the text form of its value. Where a text has no null character and no
unpaired surrogate, that is the text itself. An entry that is to be filled in and whose value has no
text form ends the loading, and so do setting lines that cannot be read.

## Main definitions

* `Environment.isFor`: whether an entry under a key is for a variable
* `Environment.first?`, `Environment.given`: the first of some entries for a variable, and what the
  environment makes of it
* `Environment.Stops`, `Environment.FillsAll`: where filling in ends
* `Environment.IsPlain`: a text that the environment holds as it is
* `Sources.configOf?`: the entries of a configuration file that can be used
* `Sources.configEntries`, `Sources.lineEntries`: what the sources give
* `Sources.Applies`: the entries that loading fills in, and how it ends

## Main results

* `Environment.fill_of_fillsAll`, `Environment.fill_of_stops`: filling in, with and without an end
* `Environment.fill_fill`: filling in twice
* `Sources.load_of_applies`: what loading comes to
* `Sources.load_congr`: what loading depends on
* `Sources.load_precedence`: which setting counts, and that it stays
-/

namespace FieldValidation

namespace Environment

variable {α β : Type} {environment : Environment}

/-! ## Setting a variable -/

theorem lookup_filter_of_ne {name other : Text} (entries : List (Text × α)) (h : other ≠ name) :
    (entries.filter (·.1 ≠ other)).lookup name = entries.lookup name := by
  induction entries with
  | nil => rfl
  | cons entry rest ih =>
    obtain ⟨key, value⟩ := entry
    by_cases hkey : key = other
    · have hdiff : (name == key) = false := by simpa [hkey] using h.symm
      rw [List.filter_cons_of_neg (by simpa using hkey), ih, List.lookup_cons, hdiff]
    · rw [List.filter_cons_of_pos (by simpa using hkey), List.lookup_cons, List.lookup_cons, ih]

/-- A variable that is set has the value it was set to, and the others keep theirs. -/
theorem get?_set (environment : Environment) (name other value : Text) :
    (environment.set other value).get? name =
      if other = name then some value else environment.get? name := by
  unfold get? set
  rw [List.lookup_cons]
  by_cases h : other = name
  · rw [if_pos h, h, beq_self_eq_true]
  · have hdiff : (name == other) = false := by simpa using Ne.symm h
    rw [if_neg h, hdiff, lookup_filter_of_ne environment h]

/-- Whether an entry under a key is for a variable: the key is not taken from the start, and what
the environment makes of it is the name of the variable. -/
def isFor (name key : Text) : Bool :=
  !reservedNames.contains key && held key = name && canHold name

/-- A variable that is not taken takes what the environment makes of the value of an entry for it;
nothing else changes. -/
theorem get?_trySet {key : Text} (h : environment.isTaken key = false) (name value : Text) :
    (environment.trySet key value).get? name =
      (environment.get? name).or (if isFor name key then some (held value) else none) := by
  obtain ⟨hreserved, hset⟩ := Bool.or_eq_false_iff.mp h
  have hunset : environment.get? (held key) = none := by simpa using hset
  unfold trySet isFor
  rw [hreserved]
  by_cases hname : held key = name
  · cases hhold : canHold (held key) <;> simp [← hname, hhold, hunset, get?_set]
  · cases hhold : canHold (held key) <;> simp [hname, get?_set]

theorem isTaken_iff {key : Text} : environment.isTaken key = true ↔
    reservedNames.contains key = true ∨ ∃ t, environment.get? (held key) = some t := by
  rw [isTaken, Bool.or_eq_true, Option.isSome_iff_exists]

theorem isTaken_eq_false_iff {key : Text} : environment.isTaken key = false ↔
    reservedNames.contains key = false ∧ environment.get? (held key) = none := by
  rw [isTaken, Bool.or_eq_false_iff, Option.isSome_eq_false_iff, Option.isNone_iff_eq_none]

/-- An entry whose key is taken is for no variable that is not set. -/
theorem isFor_of_isTaken {name key : Text} (h : environment.isTaken key = true)
    (hname : environment.get? name = none) : isFor name key = false := by
  by_contra hfor
  simp only [isFor, Bool.not_eq_false, Bool.and_eq_true, decide_eq_true_eq,
    Bool.not_eq_eq_eq_not, Bool.not_true] at hfor
  rcases isTaken_iff.mp h with hreserved | ⟨t, ht⟩
  · rw [hreserved] at hfor
    cases hfor.1.1
  · rw [hfor.1.2, hname] at ht
    cases ht

/-! ## Entries for a variable -/

/-- What the first of some entries for a variable has. -/
def first? (name : Text) (entries : List (Text × α)) : Option α :=
  (entries.find? fun entry => isFor name entry.1).map (·.2)

theorem first?_cons (name key : Text) (value : α) (rest : List (Text × α)) :
    first? name ((key, value) :: rest) =
      if isFor name key then some value else first? name rest := by
  unfold first?
  rw [List.find?_cons]
  cases isFor name key <;> rfl

/-- What the environment makes of the first of some entries for a variable. -/
def given (name : Text) (entries : List (Text × Value)) : Option Text :=
  ((first? name entries).bind Value.written?).map held

theorem given_cons (name key : Text) (value : Value) (rest : List (Text × Value)) :
    given name ((key, value) :: rest) =
      if isFor name key then value.written?.map held else given name rest := by
  unfold given
  rw [first?_cons]
  cases isFor name key <;> rfl

/-! ## Filling in -/

variable {entries done rest : List (Text × Value)} {key t : Text} {value : Value}

theorem fill_cons_of_taken (h : environment.isTaken key = true) (value : Value)
    (rest : List (Text × Value)) :
    environment.fill ((key, value) :: rest) = environment.fill rest := by
  rw [fill, if_pos h]

theorem fill_cons_of_noText (h : environment.isTaken key = false) (hvalue : value.written? = none)
    (rest : List (Text × Value)) :
    environment.fill ((key, value) :: rest) = (environment, .error .noTextForm) := by
  rw [fill, if_neg (by simp [h]), hvalue]

theorem fill_cons_of_text (h : environment.isTaken key = false) (hvalue : value.written? = some t)
    (rest : List (Text × Value)) :
    environment.fill ((key, value) :: rest) =
      (((environment.trySet key t).fill rest).1,
        ((environment.trySet key t).fill rest).2.map (· + 1)) := by
  rw [fill, if_neg (by simp [h]), hvalue]

/-- A variable that is set keeps its value. -/
theorem get?_fill_of_some {name : Text} (h : environment.get? name = some t)
    (entries : List (Text × Value)) : (environment.fill entries).1.get? name = some t := by
  induction entries generalizing environment with
  | nil => exact h
  | cons entry rest ih =>
    obtain ⟨key, value⟩ := entry
    cases htaken : environment.isTaken key with
    | true => rw [fill_cons_of_taken htaken, ih h]
    | false =>
      cases hvalue : value.written? with
      | none => rw [fill_cons_of_noText htaken hvalue, h]
      | some t =>
        rw [fill_cons_of_text htaken hvalue]
        exact ih (by rw [get?_trySet htaken, h, Option.some_or])

/-- What is taken stays taken. -/
theorem isTaken_fill (h : environment.isTaken key = true) (entries : List (Text × Value)) :
    (environment.fill entries).1.isTaken key = true := by
  rw [isTaken_iff] at h ⊢
  exact h.imp_right fun ⟨t, ht⟩ => ⟨t, get?_fill_of_some ht entries⟩

/-- Once a variable was to be set, it is taken, or its name is none. -/
theorem isTaken_trySet (environment : Environment) (key t : Text) (h : canHold (held key) = true) :
    (environment.trySet key t).isTaken key = true := by
  rw [isTaken_iff, trySet, if_pos h, get?_set, if_pos rfl]
  exact .inr ⟨_, rfl⟩

/-- Filling in once more changes nothing, and comes to the same end. -/
theorem fill_fill (environment : Environment) (entries : List (Text × Value)) :
    ((environment.fill entries).1.fill entries).1 = (environment.fill entries).1 := by
  induction entries generalizing environment with
  | nil => rfl
  | cons entry rest ih =>
    obtain ⟨key, value⟩ := entry
    cases htaken : environment.isTaken key with
    | true =>
      rw [fill_cons_of_taken htaken, fill_cons_of_taken (isTaken_fill htaken rest), ih]
    | false =>
      cases hvalue : value.written? with
      | none => rw [fill_cons_of_noText htaken hvalue, fill_cons_of_noText htaken hvalue]
      | some t =>
        rw [fill_cons_of_text htaken hvalue]
        have hagain := ih (environment.trySet key t)
        cases hlast : ((environment.trySet key t).fill rest).1.isTaken key with
        | true => rw [fill_cons_of_taken hlast, hagain]
        | false =>
          have hhold : canHold (held key) = false := by
            by_contra hhold
            have hset := isTaken_trySet environment key t (by simpa using hhold)
            rw [isTaken_fill hset rest] at hlast
            cases hlast
          rw [fill_cons_of_text hlast hvalue, trySet, hhold]
          exact hagain

/-! ## Where filling in ends -/

/-- An entry ends the filling in after others: its value has no text form, and the variable that it
is for is not taken, neither from the start nor by the others. -/
structure Stops (environment : Environment) (done : List (Text × Value)) (key : Text)
    (value : Value) : Prop where
  noText : value.written? = none
  free : environment.isTaken key = false
  notGiven : first? (held key) done = none

/-- None of some entries ends the filling in after those before it. -/
def FillsAll (environment : Environment) (entries : List (Text × Value)) : Prop :=
  ∀ done key value rest, entries = done ++ (key, value) :: rest →
    ¬ environment.Stops done key value

theorem fillsAll_nil (environment : Environment) : environment.FillsAll [] := by
  intro done _ _ _ heq
  cases done <;> cases heq

/-- Behind an entry for what is taken, the same entries end the filling in as without it. -/
theorem stops_cons_of_taken {first : Text} (h : environment.isTaken first = true) (v : Value) :
    environment.Stops ((first, v) :: done) key value ↔ environment.Stops done key value := by
  have hother (hfree : environment.isTaken key = false) : isFor (held key) first = false :=
    isFor_of_isTaken h (isTaken_eq_false_iff.mp hfree).2
  constructor
  · rintro ⟨hvalue, hfree, hgiven⟩
    rw [first?_cons, hother hfree] at hgiven
    exact ⟨hvalue, hfree, hgiven⟩
  · rintro ⟨hvalue, hfree, hgiven⟩
    exact ⟨hvalue, hfree, by rw [first?_cons, hother hfree]; exact hgiven⟩

/-- Behind an entry that is filled in, those end the filling in that do so in the environment with
it. -/
theorem stops_cons_of_text {first : Text} (h : environment.isTaken first = false) (v : Value) :
    environment.Stops ((first, v) :: done) key value ↔
      (environment.trySet first t).Stops done key value := by
  have hfree : (environment.trySet first t).isTaken key = false ↔
      environment.isTaken key = false ∧ isFor (held key) first = false := by
    rw [isTaken_eq_false_iff, isTaken_eq_false_iff, get?_trySet h, Option.or_eq_none_iff]
    cases isFor (held key) first <;> simp
  constructor
  · rintro ⟨hvalue, hkey, hgiven⟩
    rw [first?_cons] at hgiven
    cases hfor : isFor (held key) first with
    | true => rw [hfor] at hgiven; cases hgiven
    | false =>
      rw [hfor] at hgiven
      exact ⟨hvalue, hfree.mpr ⟨hkey, hfor⟩, hgiven⟩
  · rintro ⟨hvalue, hkey, hgiven⟩
    obtain ⟨hkey, hfor⟩ := hfree.mp hkey
    exact ⟨hvalue, hkey, by rw [first?_cons, hfor]; exact hgiven⟩

theorem fillsAll_cons_iff : environment.FillsAll ((key, value) :: rest) ↔
    ¬ environment.Stops [] key value ∧ ∀ done other v behind,
      rest = done ++ (other, v) :: behind → ¬ environment.Stops ((key, value) :: done) other v := by
  constructor
  · intro h
    refine ⟨h [] key value rest rfl, ?_⟩
    rintro done other v behind rfl
    exact h ((key, value) :: done) other v behind rfl
  · rintro ⟨hfirst, hrest⟩ done other v behind heq
    cases done with
    | nil =>
      obtain ⟨⟨rfl, rfl⟩, rfl⟩ : (key = other ∧ value = v) ∧ rest = behind := by simpa using heq
      exact hfirst
    | cons entry done =>
      obtain ⟨rfl, rfl⟩ := List.cons.inj heq
      exact hrest done other v behind rfl

theorem fillsAll_cons_of_taken (h : environment.isTaken key = true) :
    environment.FillsAll ((key, value) :: rest) ↔ environment.FillsAll rest := by
  rw [fillsAll_cons_iff]
  simp only [stops_cons_of_taken h]
  refine and_iff_right ?_
  rintro ⟨-, hfree, -⟩
  rw [h] at hfree
  cases hfree

theorem fillsAll_cons_of_text (h : environment.isTaken key = false)
    (hvalue : value.written? = some t) :
    environment.FillsAll ((key, value) :: rest) ↔ (environment.trySet key t).FillsAll rest := by
  rw [fillsAll_cons_iff]
  simp only [stops_cons_of_text (t := t) h]
  refine and_iff_right ?_
  rintro ⟨hnone, -, -⟩
  rw [hvalue] at hnone
  cases hnone

/-- Either all of some entries can be filled in, or there is a first one that ends it. -/
theorem fillsAll_or_exists_stops (environment : Environment) (entries : List (Text × Value)) :
    environment.FillsAll entries ∨ ∃ done key value rest, entries = done ++ (key, value) :: rest ∧
      environment.FillsAll done ∧ environment.Stops done key value := by
  induction entries using List.reverseRecOn with
  | nil => exact .inl (fillsAll_nil environment)
  | append_singleton entries last ih =>
    obtain ⟨key, value⟩ := last
    rcases ih with hall | ⟨done, other, v, rest, rfl, hdone, hstops⟩
    · by_cases hstops : environment.Stops entries key value
      · exact .inr ⟨entries, key, value, [], rfl, hall, hstops⟩
      · left
        intro done other v rest heq hother
        rcases List.eq_nil_or_concat rest with rfl | ⟨behind, entry, rfl⟩
        · obtain ⟨rfl, hlast⟩ := List.append_inj' heq rfl
          obtain ⟨rfl, rfl⟩ := Prod.mk.inj (List.singleton_inj.mp hlast)
          exact hstops hother
        · rw [List.concat_eq_append, ← List.cons_append, ← List.append_assoc] at heq
          exact hall done other v behind (List.append_inj' heq rfl).1 hother
    · exact .inr ⟨done, other, v, rest ++ [(key, value)], by simp, hdone, hstops⟩

/-- Where all entries can be filled in, they are, whatever comes behind them: a variable that is set
keeps its value, and any other takes what the first entry for it has. -/
theorem fill_of_fillsAll (h : environment.FillsAll entries) :
    (∃ n, (environment.fill entries).2 = .ok n) ∧
      (∀ name, (environment.fill entries).1.get? name =
        (environment.get? name).or (given name entries)) ∧
      ∀ behind, (environment.fill (entries ++ behind)).1 =
          ((environment.fill entries).1.fill behind).1 := by
  induction entries generalizing environment with
  | nil => exact ⟨⟨0, rfl⟩, fun name => by simp [fill, given, first?], fun _ => rfl⟩
  | cons entry rest ih =>
    obtain ⟨key, value⟩ := entry
    cases htaken : environment.isTaken key with
    | true =>
      obtain ⟨hok, hget, happend⟩ := ih ((fillsAll_cons_of_taken htaken).mp h)
      simp only [List.cons_append, fill_cons_of_taken htaken]
      refine ⟨hok, fun name => ?_, happend⟩
      rw [hget, given_cons]
      cases hset : environment.get? name with
      | some t => rw [Option.some_or, Option.some_or]
      | none =>
        rw [isFor_of_isTaken htaken hset]
        rfl
    | false =>
      cases hvalue : value.written? with
      | none =>
        have hstops : environment.Stops [] key value := ⟨hvalue, htaken, rfl⟩
        exact absurd hstops (h [] key value rest rfl)
      | some t =>
        obtain ⟨⟨n, hok⟩, hget, happend⟩ := ih ((fillsAll_cons_of_text htaken hvalue).mp h)
        simp only [List.cons_append, fill_cons_of_text htaken hvalue]
        refine ⟨⟨n + 1, by rw [hok]; rfl⟩, fun name => ?_, happend⟩
        rw [hget, get?_trySet htaken, given_cons, hvalue, Option.or_assoc]
        cases isFor name key <;> rfl

/-- An entry that ends the filling in after others leaves what they have come to. -/
theorem fill_of_stops (h : environment.FillsAll done) (hstops : environment.Stops done key value)
    (rest : List (Text × Value)) :
    environment.fill (done ++ (key, value) :: rest) =
      ((environment.fill done).1, .error .noTextForm) := by
  induction done generalizing environment with
  | nil => exact fill_cons_of_noText hstops.free hstops.noText rest
  | cons entry done ih =>
    obtain ⟨first, v⟩ := entry
    rw [List.cons_append]
    cases htaken : environment.isTaken first with
    | true =>
      rw [fill_cons_of_taken htaken, fill_cons_of_taken htaken]
      exact ih ((fillsAll_cons_of_taken htaken).mp h) ((stops_cons_of_taken htaken v).mp hstops)
    | false =>
      cases hvalue : v.written? with
      | none =>
        have hfirst : environment.Stops [] first v := ⟨hvalue, htaken, rfl⟩
        exact absurd hfirst (h [] first v done rfl)
      | some t =>
        rw [fill_cons_of_text htaken hvalue, fill_cons_of_text htaken hvalue,
          ih ((fillsAll_cons_of_text htaken hvalue).mp h) ((stops_cons_of_text htaken v).mp hstops)]
        rfl

/-! ## Texts that are held as they are -/

/-- A text that the environment holds as it is: no null character, every surrogate in a pair. -/
structure IsPlain (t : Text) : Prop where
  noNull : ∀ u ∈ t, u ≠ 0
  wellFormed : Text.IsWellFormed t

instance (t : Text) : Decidable (IsPlain t) :=
  decidable_of_iff (0 ∉ t ∧ Text.IsWellFormed t)
    ⟨fun ⟨hnull, hformed⟩ => ⟨fun _ hu => ne_of_mem_of_not_mem hu hnull, hformed⟩,
      fun h => ⟨fun hmem => h.noNull 0 hmem rfl, h.wellFormed⟩⟩

theorem held_of_isPlain {t : Text} (h : IsPlain t) : held t = t := by
  have hwhole : t.takeWhile (· ≠ 0) = t :=
    List.takeWhile_eq_self_iff.mpr fun u hu => by simpa using h.noNull u hu
  rw [held, hwhole, Text.wellFormed_eq_self h.wellFormed]

/-- Under a plain key there is an entry for the variable of that name, and for no other. -/
theorem isFor_iff_of_isPlain {name key : Text} (hkey : IsPlain key) (hname : canHold name = true)
    (hfree : reservedNames.contains name = false) : isFor name key = true ↔ key = name := by
  unfold isFor
  rw [held_of_isPlain hkey, hname]
  constructor
  · intro h
    simp only [Bool.and_true, Bool.and_eq_true, decide_eq_true_eq] at h
    exact h.2
  · rintro rfl
    rw [hfree]
    simp

end Environment

namespace Sources

open Environment

variable {sources : Sources} {files : Files} {now : Text} {environment : Environment}

/-! ## What the sources give -/

/-- The entries of a configuration file that can be used: it is there, and its content is the JSON
text of a record. -/
def configOf? (files : Files) (path : Text) : Option (Entries Value) :=
  match files path with
  | .content content =>
    match Json.read? content with
    | some (.record entries) => some entries
    | _ => none
  | _ => none

/-- The entries of the first configuration file that can be used; none if there is no such file. -/
def configEntries (sources : Sources) (files : Files) : Entries Value :=
  (sources.configPaths.findSome? (configOf? files)).getD []

/-- The entries of the setting lines; none if there is no file of them, or none that can be read. -/
def lineEntries (sources : Sources) (files : Files) : List (Text × Value) :=
  match files sources.linesPath with
  | .content content => entriesOfLines content
  | _ => []

theorem configOf?_eq_some_iff {path : Text} {entries : Entries Value} :
    configOf? files path = some entries ↔
      ∃ content, files path = .content content ∧ Json.read? content = some (.record entries) := by
  unfold configOf?
  cases hfile : files path with
  | absent => simp
  | unreadable reason => simp
  | content content =>
    simp only [FileState.content.injEq, exists_eq_left']
    split
    case h_1 hread => rw [hread]; simp
    case h_2 hother => exact ⟨nofun, fun h => absurd h (hother entries)⟩

/-- The first file that can be used is the last that is looked at. -/
theorem loadConfig_of_usable {path : Text} {entries : Entries Value}
    (h : configOf? files path = some entries) (rest : List Text) :
    loadConfig files now environment (path :: rest) =
      loadEntries now environment path entries := by
  obtain ⟨content, hcontent, hread⟩ := configOf?_eq_some_iff.mp h
  simp only [loadConfig, hcontent, hread]

/-- A file that cannot be used is passed over. -/
theorem loadConfig_of_unusable {path : Text} (h : configOf? files path = none) (now : Text)
    (environment : Environment) (rest : List Text) :
    ∃ lines, loadConfig files now environment (path :: rest) =
      { loadConfig files now environment rest with lines } := by
  rw [loadConfig]
  unfold configOf? at h
  cases hfile : files path with
  | absent => exact ⟨_, rfl⟩
  | unreadable reason => exact ⟨_, rfl⟩
  | content content =>
    rw [hfile] at h
    dsimp only at h ⊢
    split at h
    case h_1 => cases h
    case h_2 hother =>
      split
      case h_1 => exact ⟨_, rfl⟩
      case h_2 entries hread => exact absurd hread (hother entries)
      case h_3 => exact ⟨_, rfl⟩

/-- The failure that filling in ends with, if it ends with one. -/
def failureOf : Except Failure Nat → Option Failure
  | .ok _ => none
  | .error failure => some failure

/-- Of the configuration files, the first that can be used is filled in. -/
theorem loadConfig_fills (files : Files) (now : Text) (environment : Environment)
    (paths : List Text) :
    let entries := (paths.findSome? (configOf? files)).getD []
    (loadConfig files now environment paths).environment = (environment.fill entries).1 ∧
      (loadConfig files now environment paths).failure =
        failureOf (environment.fill entries).2 := by
  induction paths with
  | nil => exact ⟨rfl, rfl⟩
  | cons path rest ih =>
    rw [List.findSome?_cons]
    cases h : configOf? files path with
    | none =>
      obtain ⟨lines, hlines⟩ := loadConfig_of_unusable h now environment rest
      rw [hlines]
      exact ih
    | some entries =>
      rw [loadConfig_of_usable h, Option.getD_some, loadEntries]
      split
      case h_1 hfill => exact ⟨(congrArg Prod.fst hfill).symm, by rw [hfill]; rfl⟩
      case h_2 hfill => exact ⟨(congrArg Prod.fst hfill).symm, by rw [hfill]; rfl⟩

/-- The values of setting lines are texts. -/
theorem hasText_of_mem_lineEntries {key : Text} {value : Value}
    (h : (key, value) ∈ sources.lineEntries files) : value.HasText := by
  unfold lineEntries at h
  split at h
  case h_1 content _ =>
    obtain ⟨⟨_, t⟩, -, ht⟩ := List.mem_map.mp h
    obtain ⟨-, rfl⟩ := Prod.mk.inj ht
    rfl
  case h_2 => cases h

/-- So they can be filled in behind any entries. -/
theorem fillsAll_append_lineEntries (sources : Sources) (files : Files)
    {entries : List (Text × Value)} (h : environment.FillsAll entries) :
    environment.FillsAll (entries ++ sources.lineEntries files) := by
  intro done key value rest heq hstops
  have hline : (key, value) ∉ sources.lineEntries files := by
    intro hmem
    have htext := Value.written?_eq_some (hasText_of_mem_lineEntries hmem)
    rw [hstops.noText] at htext
    cases htext
  rcases List.append_eq_append_iff.mp heq with ⟨between, -, hlines⟩ | ⟨between, hentries, hrest⟩
  · exact hline (by rw [hlines]; simp)
  · cases between with
    | nil => exact hline (by rw [← List.nil_append (sources.lineEntries files), ← hrest]; simp)
    | cons entry between =>
      obtain ⟨rfl, -⟩ := List.cons.inj hrest
      exact h done key value between hentries hstops

/-! ## How loading ends -/

/-- The entries that loading fills in, and the failure that it ends with, if it ends with one. -/
inductive Applies (sources : Sources) (files : Files) (environment : Environment) :
    List (Text × Value) → Option Failure → Prop
  /-- All that the sources give is filled in. -/
  | all (hconfig : environment.FillsAll (sources.configEntries files))
      (hlines : ∀ reason, files sources.linesPath ≠ .unreadable reason) :
      Applies sources files environment
        (sources.configEntries files ++ sources.lineEntries files) none
  /-- The setting lines are there but cannot be read. -/
  | config {reason : Text} (hconfig : environment.FillsAll (sources.configEntries files))
      (hlines : files sources.linesPath = .unreadable reason) :
      Applies sources files environment (sources.configEntries files)
        (some (.unreadableFile reason))
  /-- An entry of the configuration is to be filled in and has a value without a text form. -/
  | upTo {done : List (Text × Value)} {key : Text} {value : Value} {rest : List (Text × Value)}
      (hentries : sources.configEntries files = done ++ (key, value) :: rest)
      (hdone : environment.FillsAll done) (hstops : environment.Stops done key value) :
      Applies sources files environment done (some .noTextForm)

variable {applied : List (Text × Value)} {failure : Option Failure}

theorem exists_applies (sources : Sources) (files : Files) (environment : Environment) :
    ∃ applied failure, sources.Applies files environment applied failure := by
  rcases fillsAll_or_exists_stops environment (sources.configEntries files) with
    hall | ⟨done, key, value, rest, hentries, hdone, hstops⟩
  · by_cases hlines : ∃ reason, files sources.linesPath = .unreadable reason
    · obtain ⟨reason, hlines⟩ := hlines
      exact ⟨_, _, .config hall hlines⟩
    · exact ⟨_, _, .all hall fun reason h => hlines ⟨reason, h⟩⟩
  · exact ⟨_, _, .upTo hentries hdone hstops⟩

/-- Once the configuration has been loaded without failure, the lines are loaded. -/
theorem load_of_configured (h : environment.FillsAll (sources.configEntries files)) (now : Text) :
    (sources.load files now environment).environment =
        ((environment.fill (sources.configEntries files)).1.fill (sources.lineEntries files)).1 ∧
      (sources.load files now environment).failure =
        match files sources.linesPath with
        | .unreadable reason => some (.unreadableFile reason)
        | _ => none := by
  obtain ⟨henvironment, hfailure⟩ := loadConfig_fills files now environment sources.configPaths
  obtain ⟨⟨n, hok⟩, -⟩ := fill_of_fillsAll h
  rw [← configEntries] at henvironment hfailure
  rw [hok, failureOf] at hfailure
  unfold load lineEntries
  dsimp only
  rw [hfailure]
  dsimp only
  unfold loadLines
  cases files sources.linesPath with
  | absent => exact ⟨henvironment, hfailure⟩
  | unreadable reason => exact ⟨henvironment, rfl⟩
  | content content => exact ⟨by rw [henvironment], hfailure⟩

/-- Loading fills in what the configuration files give, and then what the setting lines give, up to
where it ends. -/
theorem load_of_applies (h : sources.Applies files environment applied failure) (now : Text) :
    (sources.load files now environment).failure = failure ∧
      (sources.load files now environment).environment =
        (environment.fill (sources.configEntries files ++ sources.lineEntries files)).1 ∧
      ∀ name, (sources.load files now environment).environment.get? name =
        (environment.get? name).or (given name applied) := by
  cases h with
  | all hconfig hlines =>
    obtain ⟨henvironment, hfailure⟩ := load_of_configured hconfig now
    obtain ⟨-, -, happend⟩ := fill_of_fillsAll hconfig
    obtain ⟨-, hget, -⟩ := fill_of_fillsAll (fillsAll_append_lineEntries sources files hconfig)
    rw [henvironment, ← happend]
    refine ⟨?_, rfl, hget⟩
    rw [hfailure]
    split
    case h_1 reason hreason => exact absurd hreason (hlines reason)
    case h_2 => rfl
  | config hconfig hlines =>
    obtain ⟨henvironment, hfailure⟩ := load_of_configured hconfig now
    obtain ⟨-, hget, -⟩ := fill_of_fillsAll hconfig
    have hnone : sources.lineEntries files = [] := by rw [lineEntries, hlines]
    rw [hnone] at henvironment ⊢
    rw [henvironment, List.append_nil]
    refine ⟨?_, rfl, hget⟩
    rw [hfailure, hlines]
  | upTo hentries hdone hstops =>
    obtain ⟨henvironment, hfailure⟩ := loadConfig_fills files now environment sources.configPaths
    obtain ⟨-, hget, -⟩ := fill_of_fillsAll hdone
    rw [← configEntries, hentries, fill_of_stops hdone hstops] at henvironment hfailure
    have hload : sources.load files now environment =
        loadConfig files now environment sources.configPaths := by
      unfold load
      dsimp only
      rw [hfailure, failureOf]
    rw [hload, henvironment, hentries, List.append_assoc, List.cons_append,
      fill_of_stops hdone hstops]
    exact ⟨hfailure, rfl, hget⟩

/-! ## What loading depends on -/

/-- Past a configuration file that can be used no other is looked at, and the contents of others
than those before it do not matter. -/
theorem loadConfig_congr {files₂ : Files} {path : Text} {entries : Entries Value}
    (hpath : configOf? files path = some entries) (later later₂ earlier : List Text)
    (hfiles : ∀ p ∈ path :: earlier, files₂ p = files p) :
    loadConfig files₂ now environment (earlier ++ path :: later₂) =
      loadConfig files now environment (earlier ++ path :: later) := by
  induction earlier with
  | nil =>
    have hpath₂ : configOf? files₂ path = some entries := by
      rw [configOf?, hfiles path List.mem_cons_self, ← configOf?, hpath]
    rw [List.nil_append, List.nil_append, loadConfig_of_usable hpath,
      loadConfig_of_usable hpath₂]
  | cons first rest ih =>
    have hrest := ih fun p hp => hfiles p (by
      rcases List.mem_cons.mp hp with rfl | hp
      · exact List.mem_cons_self
      · exact List.mem_cons_of_mem _ (List.mem_cons_of_mem _ hp))
    rw [List.cons_append, List.cons_append, loadConfig, loadConfig, hrest,
      hfiles first (List.mem_cons_of_mem _ List.mem_cons_self)]

theorem load_congr {files₂ : Files} {path linesPath : Text} {entries : Entries Value}
    (hpath : configOf? files path = some entries) (later later₂ earlier : List Text)
    (hfiles : ∀ p ∈ linesPath :: path :: earlier, files₂ p = files p) :
    load ⟨earlier ++ path :: later₂, linesPath⟩ files₂ now environment =
      load ⟨earlier ++ path :: later, linesPath⟩ files now environment := by
  obtain ⟨hlines, hconfig⟩ := List.forall_mem_cons.mp hfiles
  unfold load
  rw [loadConfig_congr hpath later later₂ earlier hconfig]
  unfold loadLines
  rw [hlines]

/-! ## Which setting counts -/

/-- After loading, a variable has the value it had if it was set, else what the environment makes
of the first entry for it in the first configuration file that can be used, else of that in the
setting lines, else none. Loading ends early at an entry of the configuration that is to be filled
in and has a value without a text form, and at setting lines that are there but cannot be read; then
what comes before counts and nothing else. No variable that was set changes; behind a configuration
file that can be used it does not matter which others are listed and what any other file has;
loading the sources once more, at whatever time, changes nothing. Plain texts are names and values
as they stand. -/
theorem load_precedence (sources : Sources) (files : Files) (now : Text)
    (environment : Environment) :
    let loading := sources.load files now environment
    (loading.failure = none → ∀ name, loading.environment.get? name =
      (environment.get? name).or
        ((given name (sources.configEntries files)).or
          (given name (sources.lineEntries files)))) ∧
    (∃ applied failure, sources.Applies files environment applied failure) ∧
    (∀ applied failure, sources.Applies files environment applied failure →
      loading.failure = failure ∧
      ∀ name, loading.environment.get? name =
        (environment.get? name).or (given name applied)) ∧
    (∀ name value, environment.get? name = some value →
      loading.environment.get? name = some value) ∧
    (∀ earlier path later entries, sources.configPaths = earlier ++ path :: later →
      configOf? files path = some entries → ∀ later₂ (files₂ : Files),
        (∀ p ∈ sources.linesPath :: path :: earlier, files₂ p = files p) →
          load ⟨earlier ++ path :: later₂, sources.linesPath⟩ files₂ now environment = loading) ∧
    (∀ now₂, (sources.load files now₂ loading.environment).environment = loading.environment) ∧
    (∀ name key, IsPlain key → canHold name = true → reservedNames.contains name = false →
      (isFor name key = true ↔ key = name)) ∧
    ∀ t, IsPlain t → held t = t := by
  intro loading
  obtain ⟨applied, failure, happlies⟩ := exists_applies sources files environment
  obtain ⟨-, henvironment, -⟩ := load_of_applies happlies now
  refine ⟨?unhindered, ⟨applied, failure, happlies⟩, ?ending, ?kept, ?later, ?again,
    fun name key => isFor_iff_of_isPlain, fun t => held_of_isPlain⟩
  case unhindered =>
    intro hnone name
    obtain ⟨hfailure, -, -⟩ := load_of_applies happlies now
    rw [show loading.failure = failure from hfailure] at hnone
    cases happlies <;> cases hnone
    case all hconfig _ =>
      obtain ⟨henvironment, -⟩ := load_of_configured hconfig now
      obtain ⟨-, hconfigured, -⟩ := fill_of_fillsAll hconfig
      obtain ⟨-, hlines, -⟩ := fill_of_fillsAll
        (fillsAll_append_lineEntries sources files (fillsAll_nil _))
      rw [henvironment]
      exact (hlines name).trans (by rw [hconfigured, Option.or_assoc]; rfl)
  case ending =>
    intro applied failure happlies
    obtain ⟨hfailure, -, hget⟩ := load_of_applies happlies now
    exact ⟨hfailure, hget⟩
  case kept =>
    intro name value hset
    rw [henvironment, get?_fill_of_some hset]
  case later =>
    intro earlier path later entries hpaths hpath later₂ files₂ hfiles
    rw [load_congr hpath later later₂ earlier hfiles, ← hpaths]
  case again =>
    intro now₂
    obtain ⟨applied₂, failure₂, happlies₂⟩ := exists_applies sources files loading.environment
    rw [(load_of_applies happlies₂ now₂).2.1, henvironment, fill_fill]

/-- A variable that is set to nothing, one that a configuration file and the setting lines give, one
that only the lines give, and one that is given nowhere; another configuration file would not
matter. -/
theorem load_precedence_layers :
    let broken := Files.none.write "project.json" "\x7b"
    let usable := broken.write "user.json" "\x7b\"A\": \"a\", \"B\": 2\x7d"
    let files := usable.write ".env" "B=3\nC=4 # 4"
    let sources : Sources := ⟨["project.json", "user.json"], ".env"⟩
    let loading := sources.load files [] [("A", [])]
    loading.failure = none ∧ loading.environment.get? "A" = some [] ∧
      loading.environment.get? "B" = some "2" ∧ loading.environment.get? "C" = some "4" ∧
      loading.environment.get? "D" = none ∧
      (sources.load files [] loading.environment).environment = loading.environment ∧
      load ⟨["project.json", "user.json", "other.json"], ".env"⟩ files [] [("A", [])] =
        loading := by
  intro broken usable files sources loading
  obtain ⟨hget, -, -, -, hlater, hagain, -⟩ := load_precedence sources files [] [("A", [])]
  have hnone : loading.failure = none := by decide +kernel
  have huser : (configOf? files "user.json").isSome = true := by decide +kernel
  obtain ⟨entries, hentries⟩ := Option.isSome_iff_exists.mp huser
  refine ⟨hnone, (hget hnone "A").trans ?_, (hget hnone "B").trans ?_, (hget hnone "C").trans ?_,
    (hget hnone "D").trans ?_, hagain [], hlater ["project.json"] "user.json" [] entries rfl
      hentries ["other.json"] files fun _ _ => rfl⟩ <;> decide +kernel

/-- A null character ends what the environment holds, so a variable need not have the text that the
configuration gives it; and a value without a text form ends the loading, so a variable need not
have a value that comes behind it. -/
theorem not_load_written :
    let counts (files : Files) (name : Text) : Prop :=
      let sources : Sources := ⟨["c.json"], "none.env"⟩
      (sources.load files [] []).environment.get? name =
        ((Entries.find? (sources.configEntries files) name).bind Value.written?).or
          ((Entries.find? (sources.lineEntries files) name).bind Value.written?)
    ¬ counts (Files.none.write "c.json" "\x7b\"FR_A\":\"x\\u0000y\"\x7d") "FR_A" ∧
      ¬ counts (Files.none.write "c.json"
        "\x7b\"FR_A\":\x7b\"toString\":1\x7d,\"FR_B\":\"x\"\x7d") "FR_B" := by
  decide +kernel

end Sources

end FieldValidation
