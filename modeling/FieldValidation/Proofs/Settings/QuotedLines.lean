import FieldValidation.Proofs.Rule.Parsing
import FieldValidation.Proofs.Settings.Precedence
import FieldValidation.Proofs.Text.Blank
import FieldValidation.Proofs.Text.Pieces

/-!
# Quoted values in setting lines

A value in quotes is read back as it was written, whatever it has in it: the line is cut at its
first equals sign, which a key does not have; blanks are taken off outside the quotes only; and no
comment is looked for where there are quotes. A file of such lines, with blank lines and comments
among them, gives the keys and values that were written in their order, whichever way its lines are
ended, and loading it sets each variable to the first of its values, as the environment holds it.

## Main definitions

* `Setting.IsKey`: the keys that a line can have
* `Setting.quoted`: a value in quotes
* `Setting.Line`: the lines that are written, and the entries that they are for
* `Setting.File`: the files of such lines
* `Environment.IsName`: the keys that are names of variables

## Main results

* `Setting.ofLine?_entry`: what a line with a key is read as
* `Setting.Line.ofLine?_eq`: a line is read as what it is for
* `Setting.File.ofFile_eq`: a file is read as what it is for
* `Sources.load_quoted`: a line, and a file of lines, from writing to loading
-/

namespace FieldValidation

namespace Setting

/-! ## One line -/

/-- A key as a line can have it. -/
structure IsKey (key : Text) : Prop where
  ne_nil : key ≠ []
  trimmed : Text.trim key = key
  equals_not_mem : unit '=' ∉ key
  head_ne : key.head? ≠ some (unit '#')

instance (key : Text) : Decidable (IsKey key) :=
  decidable_of_iff
    (key ≠ [] ∧ Text.trim key = key ∧ unit '=' ∉ key ∧ key.head? ≠ some (unit '#'))
    ⟨fun ⟨hnil, htrim, hequals, hhead⟩ => ⟨hnil, htrim, hequals, hhead⟩,
      fun h => ⟨h.ne_nil, h.trimmed, h.equals_not_mem, h.head_ne⟩⟩

/-- The units that a value can stand between. -/
def IsQuote (q : CodeUnit) : Prop := q = unit '"' ∨ q = unit '\''

/-- A value in quotes. -/
def quoted (q : CodeUnit) (value : Text) : Text := q :: (value ++ [q])

section Entry

variable {key before after : Text}

/-- What a line with a key is read as: the value is all that stands after the first equals sign,
without the blanks around it. -/
theorem ofLine?_entry (hkey : IsKey key) (hbefore : before.IsBlank) (hafter : after.IsBlank)
    (rest : Text) :
    ofLine? (before ++ (key ++ (after ++ unit '=' :: rest))) =
      some (key, (unquote? (Text.trim rest)).getD (dropComment (Text.trim rest))) := by
  have hequals : (unit '=').isBlank = false := by decide
  have htrim : Text.trim (before ++ (key ++ (after ++ unit '=' :: rest))) =
      (key ++ after) ++ unit '=' :: Text.trimEnd rest := by
    obtain ⟨u, others, rfl⟩ := List.exists_cons_of_ne_nil hkey.ne_nil
    have hu : u.isBlank = false := (Text.trim_eq_self_iff.mp hkey.trimmed).1 u rfl
    rw [List.cons_append, Text.trim_append_cons hbefore hu, ← List.append_assoc,
      Text.trimEnd_append_cons hequals]
    rfl
  have hhead : (Text.trim (before ++ (key ++ (after ++ unit '=' :: rest)))).head? ≠
      some (unit '#') := by
    obtain ⟨u, others, rfl⟩ := List.exists_cons_of_ne_nil hkey.ne_nil
    rw [htrim]
    exact hkey.head_ne
  have hnone : unit '=' ∉ key ++ after := by
    rw [List.mem_append, not_or]
    exact ⟨hkey.equals_not_mem, fun hmem => absurd (hafter _ hmem) (by decide)⟩
  have hname : Text.trim (key ++ after) = key := by
    have hnil : Text.IsBlank [] := nofun
    exact Text.trim_around hnil hkey.trimmed hafter
  unfold ofLine?
  simp only [htrim] at hhead ⊢
  simp only [if_neg hhead, Text.splitFirst?_append hnone, hname, Text.trim_trimEnd,
    if_neg hkey.ne_nil]

/-- A value in quotes has no blanks at its ends. -/
theorem trim_quoted {q : CodeUnit} (hq : IsQuote q) (value : Text) :
    Text.trim (quoted q value) = quoted q value := by
  have hblank : q.isBlank = false := by rcases hq with rfl | rfl <;> decide
  have hlast : (quoted q value).getLast? = some q := by
    rw [quoted, ← List.cons_append, List.getLast?_concat]
  rw [Text.trim_eq_self_iff, hlast]
  simp [quoted, hblank]

theorem unquote?_quoted {q : CodeUnit} (hq : IsQuote q) (value : Text) :
    unquote? (quoted q value) = some value := by
  unfold IsQuote at hq
  simp only [unquote?, quoted, List.getLast?_concat, List.dropLast_concat, true_and, if_pos hq]

end Entry

/-- The lines that are written, and the entries that they are for. -/
inductive Line : Text → Option (Text × Text) → Prop
  /-- A blank line. -/
  | blank {line : Text} (hblank : line.IsBlank) : Line line none
  /-- A comment. -/
  | comment {before : Text} (hbefore : before.IsBlank) (text : Text) :
      Line (before ++ unit '#' :: text) none
  /-- A key with a value in quotes. -/
  | entry {key before after before' after' : Text} {q : CodeUnit} (hkey : IsKey key)
      (hq : IsQuote q) (value : Text) (hbefore : before.IsBlank) (hafter : after.IsBlank)
      (hbefore' : before'.IsBlank) (hafter' : after'.IsBlank) :
      Line (before ++ (key ++ (after ++ unit '=' :: (before' ++ (quoted q value ++ after')))))
        (some (key, value))

variable {line : Text} {entry : Option (Text × Text)}

/-- A line is read as what it is for. -/
theorem Line.ofLine?_eq (h : Line line entry) : ofLine? line = entry := by
  cases h with
  | blank hblank =>
    simp [ofLine?, Text.trim_eq_nil_iff.mpr hblank, Text.splitFirst?]
  | @comment before hbefore text =>
    have htrim : Text.trim (before ++ unit '#' :: text) = unit '#' :: Text.trimEnd text :=
      Text.trim_append_cons hbefore (by decide) text
    simp [ofLine?, htrim]
  | entry hkey hq value hbefore hafter hbefore' hafter' =>
    rw [ofLine?_entry hkey hbefore hafter,
      Text.trim_around hbefore' (trim_quoted hq value) hafter', unquote?_quoted hq]
    rfl

/-! ## A file of lines -/

theorem dropReturn_concat (line : Text) : dropReturn (line ++ [0x0D]) = line := by
  simp [dropReturn]

/-- No carriage return is taken off beyond another unit. -/
theorem dropReturn_append_cons {u : CodeUnit} (hu : u ≠ 0x0D) (s t : Text) :
    dropReturn (s ++ u :: t) = s ++ u :: dropReturn t := by
  rcases List.eq_nil_or_concat t with rfl | ⟨others, v, rfl⟩
  · simp [dropReturn, hu]
  · have hconcat : s ++ u :: (others ++ [v]) = (s ++ u :: others) ++ [v] := by simp
    unfold dropReturn
    rw [List.concat_eq_append, hconcat, List.getLast?_concat, List.getLast?_concat,
      List.dropLast_concat, List.dropLast_concat]
    split
    · rfl
    · exact hconcat.symm

theorem isBlank_dropReturn {t : Text} (h : t.IsBlank) : (dropReturn t).IsBlank := by
  unfold dropReturn
  split
  · exact fun u hu => h u ((List.dropLast_prefix t).subset hu)
  · exact h

/-- A carriage return that is taken for a part of the line end was no part of the entry. -/
theorem Line.dropReturn (h : Line line entry) : Line (dropReturn line) entry := by
  cases h with
  | blank hblank => exact .blank (isBlank_dropReturn hblank)
  | @comment before hbefore text =>
    rw [dropReturn_append_cons (by decide)]
    exact .comment hbefore _
  | @entry key before after before' after' q hkey hq value hbefore hafter hbefore' hafter' =>
    have hreturn : q ≠ 0x0D := by rcases hq with rfl | rfl <;> decide
    have hquote :
        before ++ (key ++ (after ++ unit '=' :: (before' ++ (quoted q value ++ after')))) =
        (before ++ (key ++ (after ++ unit '=' :: (before' ++ q :: value)))) ++ q :: after' := by
      simp [quoted]
    have hentry := Line.entry hkey hq value hbefore hafter hbefore' (isBlank_dropReturn hafter')
    rw [hquote, dropReturn_append_cons hreturn]
    simpa [quoted] using hentry

/-- The files that are written line by line, and the entries that they are for. A line ends with a
line feed, with or without a carriage return before it; the last line need not end so. -/
inductive File : Text → List (Text × Text) → Prop
  | last {line : Text} {entry : Option (Text × Text)} (hline : Line line entry)
      (hfeed : unit '\n' ∉ line) : File line entry.toList
  | line {line ending content : Text} {entry : Option (Text × Text)}
      {entries : List (Text × Text)} (hline : Line line entry) (hfeed : unit '\n' ∉ line)
      (hending : ending = [unit '\n'] ∨ ending = [0x0D, unit '\n'])
      (hrest : File content entries) :
      File (line ++ (ending ++ content)) (entry.toList ++ entries)

theorem lines_of_not_mem (h : unit '\n' ∉ line) : lines line = [line] := by
  simp [lines, Text.splitOn_of_not_mem h]

/-- A line that is ended is the first one of a file. -/
theorem lines_append (h : unit '\n' ∉ line) (rest : Text) :
    lines (line ++ unit '\n' :: rest) = Setting.dropReturn line :: lines rest := by
  obtain ⟨piece, pieces, hpieces⟩ :=
    List.exists_cons_of_ne_nil (Text.splitOn_ne_nil (unit '\n') rest)
  simp [lines, Text.splitOn_append, Text.splitOn_of_not_mem h, hpieces]

/-- A file is read as what it is for. -/
theorem File.ofFile_eq {content : Text} {entries : List (Text × Text)} (h : File content entries) :
    ofFile content = entries := by
  have hcons (line : Text) (rest : List Text) :
      (line :: rest).filterMap ofLine? = (ofLine? line).toList ++ rest.filterMap ofLine? := by
    rw [List.filterMap_cons]
    cases ofLine? line <;> rfl
  induction h with
  | last hline hfeed =>
    rw [ofFile, lines_of_not_mem hfeed, hcons, hline.ofLine?_eq, List.filterMap_nil,
      List.append_nil]
  | @line line ending content entry entries hline hfeed hending hrest ih =>
    unfold ofFile at ih ⊢
    rcases hending with rfl | rfl
    · rw [List.singleton_append, lines_append hfeed, hcons, hline.dropReturn.ofLine?_eq, ih]
    · have hfeed' : unit '\n' ∉ line ++ [0x0D] := by
        rw [List.mem_append, not_or]
        exact ⟨hfeed, by decide⟩
      have hreturn : line ++ ([0x0D, unit '\n'] ++ content) =
          (line ++ [0x0D]) ++ unit '\n' :: content := by simp
      rw [hreturn, lines_append hfeed', dropReturn_concat, hcons, hline.ofLine?_eq, ih]

end Setting

/-! ## Loading the file -/

namespace Environment

/-- A key that is the name of a variable. -/
structure IsName (key : Text) : Prop where
  plain : IsPlain key
  canHold : canHold key = true
  free : reservedNames.contains key = false

instance (key : Text) : Decidable (IsName key) :=
  decidable_of_iff
    (IsPlain key ∧ Environment.canHold key = true ∧ reservedNames.contains key = false)
    ⟨fun ⟨hplain, hhold, hfree⟩ => ⟨hplain, hhold, hfree⟩,
      fun h => ⟨h.plain, h.canHold, h.free⟩⟩

/-- An entry under a name is for the variable of that name, and for no other. -/
theorem isFor_eq_of_isName {key : Text} (h : IsName key) (name : Text) :
    isFor name key = (name == key) := by
  unfold isFor
  rw [held_of_isPlain h.plain, h.free, Bool.not_false, Bool.true_and]
  by_cases hname : key = name
  · simp [← hname, h.canHold]
  · simp [hname, Ne.symm hname]

/-- What the environment makes of the first text under a name. -/
theorem given_texts {entries : List (Text × Text)} (h : ∀ entry ∈ entries, IsName entry.1)
    (name : Text) :
    given name (entries.map fun (key, value) => (key, .text value)) =
      (entries.lookup name).map held := by
  induction entries with
  | nil => rfl
  | cons entry rest ih =>
    obtain ⟨key, value⟩ := entry
    obtain ⟨hkey, hrest⟩ := List.forall_mem_cons.mp h
    rw [List.map_cons, given_cons, isFor_eq_of_isName hkey, List.lookup_cons, ih hrest]
    cases name == key <;> rfl

end Environment

namespace Sources

open Environment

variable {sources : Sources} {files : Files} {environment : Environment} {content : Text}
  {entries : List (Text × Text)}

/-- What a file of lines gives where no configuration file can be used: a variable that is set
keeps its value, any other has that of the first line with its name. -/
theorem load_file (hconfig : ∀ path ∈ sources.configPaths, configOf? files path = none)
    (hcontent : files sources.linesPath = .content content) (hfile : Setting.File content entries)
    (hnames : ∀ entry ∈ entries, IsName entry.1) (now : Text) (environment : Environment) :
    (sources.load files now environment).failure = none ∧
      ∀ name, (sources.load files now environment).environment.get? name =
        (environment.get? name).or ((entries.lookup name).map held) := by
  have hnone : sources.configEntries files = [] := by
    rw [configEntries, List.findSome?_eq_none_iff.mpr hconfig, Option.getD_none]
  have hlines : sources.lineEntries files =
      entries.map fun (key, value) => (key, .text value) := by
    rw [lineEntries, hcontent, ← hfile.ofFile_eq]
    rfl
  have happlies : sources.Applies files environment _ none :=
    .all (hnone ▸ fillsAll_nil environment) fun reason h => by rw [hcontent] at h; cases h
  obtain ⟨hfailure, -, hget⟩ := load_of_applies happlies now
  refine ⟨hfailure, fun name => ?_⟩
  rw [hget, hnone, List.nil_append, hlines, given_texts hnames]

/-- A key with a value in quotes, with any blanks around the key, the equals sign and the quotes, is
read as that key and that value. Loading a file of such lines, of blank lines and of comments, each
ended in either way, where no configuration file can be used and the keys are names of variables,
gives each of them that is not set the value of its first line, as the environment holds it; a plain
value is held as it is. All other variables stay as they are, and the loading does not fail. -/
theorem load_quoted :
    (∀ (key value : Text) (q : CodeUnit) (before after before' after' : Text), Setting.IsKey key →
      Setting.IsQuote q → before.IsBlank → after.IsBlank → before'.IsBlank → after'.IsBlank →
      Setting.ofLine? (before ++ (key ++ (after ++ unit '=' ::
        (before' ++ (Setting.quoted q value ++ after'))))) = some (key, value)) ∧
    ∀ (sources : Sources) (files : Files) (now : Text) (environment : Environment)
      (content : Text) (entries : List (Text × Text)),
      (∀ path ∈ sources.configPaths, configOf? files path = none) →
      files sources.linesPath = .content content → Setting.File content entries →
      (∀ entry ∈ entries, IsName entry.1) →
      let loaded := (sources.load files now environment).environment
      (sources.load files now environment).failure = none ∧
      (∀ earlier key value later, entries = earlier ++ (key, value) :: later →
        (∀ entry ∈ earlier, entry.1 ≠ key) → environment.get? key = none →
        loaded.get? key = some (held value) ∧
          (IsPlain value → loaded.get? key = some value)) ∧
      ∀ name, (environment.get? name).isSome ∨ (∀ entry ∈ entries, entry.1 ≠ name) →
        loaded.get? name = environment.get? name := by
  refine ⟨?line, ?file⟩
  case line =>
    intro key value q before after before' after' hkey hq hbefore hafter hbefore' hafter'
    exact (Setting.Line.entry hkey hq value hbefore hafter hbefore' hafter').ofLine?_eq
  case file =>
    intro sources files now environment content entries hconfig hcontent hfile hnames loaded
    obtain ⟨hfailure, hget⟩ := load_file hconfig hcontent hfile hnames now environment
    have hnone {others : List (Text × Text)} {name : Text}
        (h : ∀ entry ∈ others, entry.1 ≠ name) : others.lookup name = none :=
      List.lookup_eq_none_iff.mpr fun entry hentry => by simpa using (h entry hentry).symm
    refine ⟨hfailure, ?first, ?others⟩
    case first =>
      intro earlier key value later hentries hearlier hunset
      have hvalue : loaded.get? key = some (held value) := by
        rw [hget, hunset, Option.none_or, hentries, List.lookup_append, hnone hearlier,
          Option.none_or, List.lookup_cons_self, Option.map_some]
      exact ⟨hvalue, fun hplain => by rw [hvalue, held_of_isPlain hplain]⟩
    case others =>
      rintro name (hset | hother)
      · obtain ⟨value, hvalue⟩ := Option.isSome_iff_exists.mp hset
        rw [hget, hvalue, Option.some_or]
      · rw [hget, hnone hother, Option.map_none, Option.or_none]

/-- A comment, a value with an equals sign, a comment sign and a quote in it, a second line with the
same name, and a variable that was set before; the lines end in both ways. -/
theorem load_quoted_first :
    let files := Files.none.write ".env" "# a\r\n FR_A = \" #x=\"\" \r\nFR_A='y'\nFR_B=''\n"
    let loaded := (load ⟨["none.json"], ".env"⟩ files [] [("FR_B", "z")]).environment
    Setting.ofLine? " FR_A = \" #x=\"\" " = some (Text.ofString "FR_A", Text.ofString " #x=\"") ∧
      loaded.get? "FR_A" = some (Text.ofString " #x=\"") ∧ loaded.get? "FR_B" = some "z" := by
  intro files loaded
  obtain ⟨hline, hload⟩ := load_quoted
  have hnil : Text.IsBlank [] := by decide
  have hspace : Text.IsBlank " " := by decide
  have ha : Setting.IsKey "FR_A" := by decide
  have hb : Setting.IsKey "FR_B" := by decide
  have hfile : Setting.File "# a\r\n FR_A = \" #x=\"\" \r\nFR_A='y'\nFR_B=''\n"
      [("FR_A", Text.ofString " #x=\""), ("FR_A", "y"), ("FR_B", [])] := by
    have hlast := Setting.File.last (.blank hnil) nofun
    have hfourth := Setting.File.line (.entry hb (.inr rfl) [] hnil hnil hnil hnil)
      (by decide) (.inl rfl) hlast
    have hthird := Setting.File.line (.entry ha (.inr rfl) "y" hnil hnil hnil hnil)
      (by decide) (.inl rfl) hfourth
    have hsecond := Setting.File.line
      (.entry ha (.inl rfl) " #x=\"" hspace hspace hspace hspace) (by decide) (.inr rfl)
      hthird
    have hfirst := Setting.File.line (.comment hnil " a") (by decide) (.inr rfl) hsecond
    convert hfirst using 1 <;> decide
  obtain ⟨-, hgiven, hkept⟩ := hload ⟨["none.json"], ".env"⟩ files [] [("FR_B", "z")] _ _
    (by decide +kernel) (Files.write_self _ _ _) hfile (by decide)
  refine ⟨?line, ?given, ?kept⟩
  case line =>
    have htext : Text.ofString " FR_A = \" #x=\"\" " = Text.ofString " " ++ ("FR_A" ++ (" " ++
        unit '=' :: (" " ++ (Setting.quoted (unit '"') " #x=\"" ++ " ")))) := by decide
    rw [htext]
    exact hline _ _ _ _ _ _ _ ha (.inl rfl) hspace hspace hspace hspace
  case given =>
    obtain ⟨-, hplain⟩ := hgiven [] "FR_A" (Text.ofString " #x=\"") _ rfl nofun rfl
    exact hplain (by decide)
  case kept => exact hkept "FR_B" (.inl (by decide))

/-- A null character ends what the environment holds, so a variable need not have the value that
stands in the quotes. -/
theorem not_load_quoted_whole :
    ¬ ∀ (sources : Sources) (files : Files) (now : Text) (environment : Environment)
      (content key value : Text), (∀ path ∈ sources.configPaths, configOf? files path = none) →
      files sources.linesPath = .content content → Setting.File content [(key, value)] →
      IsName key → environment.get? key = none →
      (sources.load files now environment).environment.get? key = some value := by
  intro h
  have hnil : Text.IsBlank [] := by decide
  have hline : Setting.Line "FR_A=\"x\x00y\"" (some ("FR_A", "x\x00y")) := by
    have hentry := Setting.Line.entry (show Setting.IsKey "FR_A" by decide)
      (.inl rfl) "x\x00y" hnil hnil hnil hnil
    convert hentry using 1
    decide
  have hfile : Setting.File "FR_A=\"x\x00y\"\n" [("FR_A", "x\x00y")] := by
    have hlast := Setting.File.last (.blank hnil) nofun
    convert Setting.File.line hline (by decide) (.inl rfl) hlast using 1 <;>
      decide
  have hcase := h ⟨[], ".env"⟩ (Files.none.write ".env" "FR_A=\"x\x00y\"\n") [] [] _ _ _ nofun
    (Files.write_self _ _ _) hfile (by decide) rfl
  revert hcase
  decide +kernel

end Sources

end FieldValidation
