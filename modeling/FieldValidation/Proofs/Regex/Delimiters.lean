import Mathlib
import FieldValidation.Proofs.Regex.Groups
import FieldValidation.Proofs.Text.Pieces

/-!
# Patterns with delimiters

A pattern with delimiters is a body between slashes with small letters after it. The body may hold
slashes itself, so that the search for delimiters has several ways to try. But no letter is a slash,
so the last slash of the pattern ends the body, and only one of these ways can succeed: what is kept
of the two groups is what the scan for the last slash cuts out.

Whether a pattern matches is therefore told by the expression of the body and the flags that were
written. The calls of a matcher share nothing but the searcher for delimiters, which begins every
search at the start and is not changed by it. So no call has an effect on a later one, even where
the flags of a pattern let its searcher go on from its last search.

## Main definitions

* `Regex.IsDelimited`: a pattern with delimiters
* `Regex.delimited`: the expression for delimiters

## Main results

* `Regex.bodyAndFlags_of_isDelimited`, `Regex.bodyAndFlags_of_not`: what the scan cuts out
* `Regex.finds_delimited_iff`: the patterns in which the expression is found
* `Regex.groups_of_foundAt`: the groups are the body and the flags
* `Regex.Matcher.answers_eq`: a matcher answers all calls as if each were the first
* `Regex.matchesPattern_of_delimiters`: whether a pattern matches
-/

namespace FieldValidation

namespace Regex

/-- A pattern with delimiters: a body between slashes, and small letters after it. -/
structure IsDelimited (pattern body flags : Text) : Prop where
  eq : pattern = unit '/' :: (body ++ unit '/' :: flags)
  letters : ∀ u ∈ flags, unit 'a' ≤ u ∧ u ≤ unit 'z'

variable {pattern body flags text : Text}

/-! ## The last slash -/

theorem isFlagUnit_iff {u : CodeUnit} : isFlagUnit u = true ↔ unit 'a' ≤ u ∧ u ≤ unit 'z' := by
  simp [isFlagUnit]

/-- No letter is a slash. -/
theorem IsDelimited.slash_not_mem (h : IsDelimited pattern body flags) : unit '/' ∉ flags := by
  intro hmem
  have hletter : isFlagUnit (unit '/') = true := isFlagUnit_iff.mpr (h.letters _ hmem)
  revert hletter
  decide

/-- A pattern has no more than one body and one text of flags. -/
theorem IsDelimited.unique {body' flags' : Text} (h : IsDelimited pattern body flags)
    (h' : IsDelimited pattern body' flags') : body = body' ∧ flags = flags' := by
  have heq : body ++ unit '/' :: flags = body' ++ unit '/' :: flags' :=
    (List.cons.inj (h.eq.symm.trans h'.eq)).2
  exact Text.append_cons_inj_of_not_mem h.slash_not_mem h'.slash_not_mem heq

theorem bodyAndFlags_of_isDelimited (h : IsDelimited pattern body flags) :
    bodyAndFlags pattern = (body, flags) := by
  have hletters : flags.all isFlagUnit = true :=
    List.all_eq_true.mpr fun u hu => isFlagUnit_iff.mpr (h.letters u hu)
  rw [h.eq, bodyAndFlags]
  simp only [if_pos, Text.splitLast?_append body h.slash_not_mem, hletters]

/-- A pattern that is not delimited is a source as a whole. -/
theorem bodyAndFlags_of_not (h : ¬ ∃ body flags, IsDelimited pattern body flags) :
    bodyAndFlags pattern = (pattern, []) := by
  unfold bodyAndFlags
  split
  · rfl
  · next u rest =>
    split
    · next hu =>
      split
      · next body flags hsplit =>
        refine if_neg fun hletters => h ⟨body, flags, ?_, fun v hv => ?_⟩
        · rw [hu, (Text.splitLast?_eq_some_iff.mp hsplit).1]
        · exact isFlagUnit_iff.mp (List.all_eq_true.mp hletters v hv)
      · rfl
    · rfl

/-- Whether a pattern matches is told by the expression of what is cut out of it. -/
theorem matchesPattern_eq {source : Text} (h : bodyAndFlags pattern = (source, flags)) :
    matchesPattern pattern text = (compile? source flags).any (·.test text) := by
  rw [matchesPattern, h]
  dsimp only
  cases compile? source flags <;> rfl

/-! ## The expression for delimiters -/

/-- All characters. -/
def allCharacters : CharacterSet := [(0, CharacterSet.maxCodePoint)]

/-- The characters of flags. -/
def flagCharacters : CharacterSet := [((unit 'a').toNat, (unit 'z').toNat)]

/-- A group for a run of characters of a set, with the number of the group after it. -/
def runGroup (set : CharacterSet) (index next : Nat) : Node :=
  .capture index (.inTurn [.repetition (.characters set) 0 none true next next])

/-- The slash. -/
def slash : Node := .characters (.single (unit '/').toNat)

/-- The expression for delimiters as it is read. -/
def delimited : Regex where
  flags := .none
  node := .inTurn (.anchor .start ::
    ([slash, runGroup allCharacters 1 2, slash, runGroup flagCharacters 2 3] ++ [.anchor .finish]))
  groupCount := 2

theorem compile?_delimitedPattern : compile? delimitedPattern [] = some delimited := by cbv

theorem isPlain_delimited : delimited.node.IsPlain := by
  unfold delimited slash runGroup
  simp [Node.inTurn, Node.IsPlain]

theorem has_allCharacters (u : CodeUnit) : allCharacters.has u.toNat = true := by
  have hu := u.toNat_lt
  simp only [allCharacters, CharacterSet.has_cons_iff, CharacterSet.maxCodePoint]
  omega

theorem has_flagCharacters_iff {u : CodeUnit} :
    flagCharacters.has u.toNat = true ↔ unit 'a' ≤ u ∧ u ≤ unit 'z' := by
  simp [flagCharacters, CharacterSet.has, UInt16.le_iff_toNat_le]

section Spans

variable {s : Subject} {set : CharacterSet} {index next : Nat} {before t after : Text}

theorem spans_runGroup_iff :
    Spans s (runGroup set index next) before t after ↔ ∀ u ∈ t, set.has u.toNat = true := by
  rw [runGroup, spans_capture_iff, spans_cons_iff]
  simp only [spans_run_iff, spans_nil_iff]
  constructor
  · rintro ⟨p, q, rfl, hp, rfl⟩
    rwa [List.append_nil]
  · intro h
    exact ⟨t, [], (List.append_nil t).symm, h, rfl⟩

/-- The expression is found in the patterns with delimiters. -/
theorem finds_delimited_iff :
    delimited.Finds pattern ↔ ∃ body flags, IsDelimited pattern body flags := by
  rw [finds_iff_spans rfl rfl rfl]
  simp only [spans_cons_iff, spans_nil_iff, slash, spans_single_iff, spans_runGroup_iff,
    has_flagCharacters_iff]
  constructor
  · rintro ⟨_, _, rfl, rfl, body, _, rfl, -, _, _, rfl, rfl, flags, _, rfl, hletters, rfl⟩
    exact ⟨body, flags, by simp, hletters⟩
  · rintro ⟨body, flags, rfl, hletters⟩
    exact ⟨[unit '/'], _, rfl, rfl, body, _, rfl, fun u _ => has_allCharacters u, [unit '/'], _,
      rfl, rfl, flags, [], by simp, hletters, rfl⟩

end Spans

/-! ## Its groups -/

section Groups

variable {s : Subject} {set : CharacterSet} {index next : Nat} {before rest : List Nat}
  {tasks : List Task} {captures : Captures} {good : Way → Prop}

/-- A group for a run keeps what the run takes. -/
theorem yields_runGroup (hchars : s.characters.toList = before ++ rest)
    (h : ∀ x after, rest = x ++ after → (∀ c ∈ x, set.has c = true) →
      Yields s tasks (before ++ x).length
        (captures.set index (some (before.length, (before ++ x).length))) good) :
    Yields s (.node (runGroup set index next) true :: tasks) before.length captures good := by
  apply yields_capture
  apply yields_sequence
  apply yields_run hchars
  intro x after hrest hx
  apply yields_empty
  have hle : before.length ≤ (before ++ x).length := by simp
  exact yields_keep hle (h x after hrest hx)

/-- The text between two places among the characters of a text. -/
theorem textBetween_of_parts {t before x after : Text} {start finish : Nat}
    (ht : t = before ++ (x ++ after)) (hstart : start = before.length)
    (hfinish : finish = start + x.length) : textBetween (t.map UInt16.toNat) start finish = x := by
  have htake : (t.map UInt16.toNat).take finish = (before ++ x).map UInt16.toNat := by
    rw [ht, ← List.append_assoc, List.map_append]
    exact List.take_left' (by simp [hfinish, hstart])
  have hunits : Text.ofCodePoints (x.map UInt16.toNat) = x := by
    simp [Text.ofCodePoints, List.flatMap_map, Text.ofCodePoint_toNat]
  rw [textBetween, htake, List.map_append, List.drop_left' (by simp [hstart]), hunits]

/-- The parts of a pattern, by its characters. -/
theorem exists_isDelimited {c d : Nat} {x y : List Nat}
    (hparts : pattern.map UInt16.toNat = c :: (x ++ d :: y))
    (hc : (CharacterSet.single (unit '/').toNat).has c = true)
    (hd : (CharacterSet.single (unit '/').toNat).has d = true)
    (hy : ∀ e ∈ y, flagCharacters.has e = true) :
    ∃ body flags, IsDelimited pattern body flags ∧ x.length = body.length ∧
      y.length = flags.length := by
  obtain ⟨u, tail, rfl, rfl, htail⟩ := List.map_eq_cons_iff.mp hparts
  obtain ⟨body, ending, rfl, rfl, hending⟩ := List.map_eq_append_iff.mp htail
  obtain ⟨v, flags, rfl, rfl, rfl⟩ := List.map_eq_cons_iff.mp hending
  obtain rfl := has_single_iff.mp hc
  obtain rfl := has_single_iff.mp hd
  refine ⟨body, flags, ⟨rfl, fun w hw => ?_⟩, List.length_map _, List.length_map _⟩
  exact has_flagCharacters_iff.mp (hy _ (List.mem_map_of_mem hw))

/-- Every way on which the search for delimiters can succeed keeps a body and flags. -/
theorem yields_delimited {place : Nat} :
    Yields (delimited.subject pattern) [.node delimited.node true] place [none, none, none]
      fun way => ∃ body flags, IsDelimited pattern body flags ∧
        way.captures = [none, some (1, 1 + body.length),
          some (1 + body.length + 1, 1 + body.length + 1 + flags.length)] := by
  have hchars : (delimited.subject pattern).characters.toList = pattern.map UInt16.toNat := rfl
  apply yields_sequence
  apply yields_anchor
  intro hstart
  obtain rfl : place = ([] : List Nat).length := (isAt_start_iff rfl).mp hstart
  apply yields_sequence
  apply yields_characters hchars
  intro c rest hrest hc
  have hslash : (delimited.subject pattern).characters.toList = ([] ++ [c]) ++ rest := by
    rw [hchars, hrest]
    rfl
  apply yields_sequence
  apply yields_runGroup hslash
  rintro x after rfl -
  rw [← List.append_assoc] at hslash
  apply yields_sequence
  apply yields_characters hslash
  rintro d rest rfl hd
  have hbody : (delimited.subject pattern).characters.toList = ([] ++ [c] ++ x ++ [d]) ++ rest := by
    rw [hslash]
    simp
  apply yields_sequence
  apply yields_runGroup hbody
  rintro y after rfl hy
  apply yields_sequence
  apply yields_anchor
  intro hfinish
  have hlength := (isAt_finish_iff rfl).mp hfinish
  apply yields_empty
  apply yields_nil
  have hsize : (delimited.subject pattern).characters.size = (pattern.map UInt16.toNat).length :=
    List.size_toArray
  obtain rfl : after = [] := by
    rw [hsize, hrest] at hlength
    apply List.length_eq_zero_iff.mp
    simp only [List.length_append, List.length_cons, List.length_nil] at hlength
    omega
  rw [List.append_nil] at hrest
  obtain ⟨body, flags, hparts, hx, hy⟩ := exists_isDelimited hrest hc hd hy
  have hslash : ([] ++ [c] ++ x).length = 1 + body.length := by
    rw [List.length_append, hx]
    rfl
  have hbody : ([] ++ [c] ++ x ++ [d]).length = 1 + body.length + 1 := by
    rw [List.length_append, hslash]
    rfl
  have hflags : ([] ++ [c] ++ x ++ [d] ++ y).length = 1 + body.length + 1 + flags.length := by
    rw [List.length_append, hbody, hy]
  refine ⟨body, flags, hparts, ?_⟩
  rw [hflags, hbody, hslash]
  rfl

theorem group_ofWay {characters : List Nat} {way : Way} {start finish : Nat}
    (h : way.captures[index]? = some (some (start, finish))) :
    (Found.ofWay characters way).group index = textBetween characters start finish := by
  simp [Found.group, Found.ofWay, h]

/-- What the search for delimiters keeps of its groups are the body and the flags. -/
theorem groups_of_foundAt {steps place : Nat} {found : Found}
    (h : Searcher.foundAt steps delimited pattern place = some found) :
    IsDelimited pattern (found.group 1) (found.group 2) := by
  obtain ⟨way, hway, rfl⟩ := Option.map_eq_some_iff.mp h
  obtain ⟨body, flags, hparts, hcaptures⟩ := yields_delimited.of_outcome hway
  have hchars : charactersOf delimited.flags.unicode pattern = pattern.map UInt16.toNat := rfl
  rw [hchars, group_ofWay (by rw [hcaptures]; rfl), group_ofWay (by rw [hcaptures]; rfl)]
  have hbefore : pattern = [unit '/'] ++ (body ++ unit '/' :: flags) := hparts.eq
  have hbody : textBetween (pattern.map UInt16.toNat) 1 (1 + body.length) = body :=
    textBetween_of_parts hbefore rfl rfl
  have hafter : pattern = (unit '/' :: (body ++ [unit '/'])) ++ (flags ++ []) := by
    rw [hparts.eq]
    simp
  have hflags : textBetween (pattern.map UInt16.toNat) (1 + body.length + 1)
      (1 + body.length + 1 + flags.length) = flags :=
    textBetween_of_parts hafter (by simp [Nat.add_comm]) rfl
  rwa [hbody, hflags]

end Groups

/-! ## Calls -/

namespace Matcher

variable {steps : Nat}

/-- The matcher for patterns. -/
def forPatterns : Matcher := ⟨⟨delimited, false, 0⟩⟩

theorem make_eq : make = .ok forPatterns := by
  unfold make Searcher.make
  rw [compile?_delimitedPattern]
  rfl

/-- The search for delimiters does not change the matcher. -/
theorem cut_snd (steps : Nat) (pattern : Text) :
    (forPatterns.cut steps pattern).2 = forPatterns := by
  have hsame : (forPatterns.delimiters.exec steps pattern).2 = forPatterns.delimiters :=
    Searcher.exec_snd rfl
  unfold cut
  rw [← Prod.eta (forPatterns.delimiters.exec steps pattern), hsame]
  dsimp only
  split <;> rfl

/-- With enough steps a pattern is cut as by the scan for the last slash. -/
theorem exists_cut_fst (pattern : Text) :
    ∃ enough, ∀ steps, enough ≤ steps →
      (forPatterns.cut steps pattern).1 = bodyAndFlags pattern := by
  obtain ⟨enough, htest⟩ := exists_testWithin_iff isPlain_delimited pattern
  refine ⟨enough, fun steps hsteps => ?_⟩
  have hfound : (forPatterns.delimiters.exec steps pattern).1.isSome = true ↔
      ∃ body flags, IsDelimited pattern body flags := by
    rw [Searcher.isSome_exec fun _ => rfl]
    exact (htest steps hsteps).trans finds_delimited_iff
  unfold cut
  dsimp only
  cases hexec : (forPatterns.delimiters.exec steps pattern).1 with
  | none =>
    rw [hexec] at hfound
    exact (bodyAndFlags_of_not fun hparts => nomatch hfound.mpr hparts).symm
  | some found =>
    obtain ⟨place, hplace⟩ := Searcher.exists_foundAt (fun _ => rfl) hexec
    exact (bodyAndFlags_of_isDelimited (groups_of_foundAt hplace)).symm

/-- A call does not fail and does not change the matcher. Its answer is told by the expression of
what is cut out of the pattern. -/
theorem call_eq {source : Text} (h : (forPatterns.cut steps pattern).1 = (source, flags)) :
    forPatterns.call steps pattern text =
      (.ok ((compile? source flags).any (·.test text)), forPatterns) := by
  have hcut : forPatterns.cut steps pattern = ((source, flags), forPatterns) :=
    Prod.ext h (cut_snd steps pattern)
  rw [call, hcut]
  dsimp only
  unfold Searcher.make
  cases compile? source flags with
  | none => rfl
  | some regex =>
    dsimp only
    rw [Searcher.test_fst fun _ => rfl]
    rfl

/-- Calls one after the other are answered as if each were the first. -/
theorem answers_eq (steps : Nat) (calls : List (Text × Text)) :
    forPatterns.answers steps calls =
      (calls.map fun (pattern, text) => (forPatterns.call steps pattern text).1, forPatterns) := by
  induction calls with
  | nil => rfl
  | cons call calls ih =>
    obtain ⟨pattern, text⟩ := call
    have hsame : (forPatterns.call steps pattern text).2 = forPatterns := by rw [call_eq rfl]
    rw [answers]
    dsimp only
    rw [hsame, ih]
    rfl

/-- With enough steps a call answers whether the pattern matches. -/
theorem exists_call_eq (pattern text : Text) :
    ∃ enough, ∀ steps, enough ≤ steps →
      (forPatterns.call steps pattern text).1 = .ok (matchesPattern pattern text) := by
  obtain ⟨enough, hcut⟩ := exists_cut_fst pattern
  refine ⟨enough, fun steps hsteps => ?_⟩
  rw [call_eq (hcut steps hsteps), matchesPattern_eq rfl]

end Matcher

/-! ## Whether a pattern matches -/

theorem matchesPattern_iff {source : Text} (h : bodyAndFlags pattern = (source, flags)) :
    matchesPattern pattern text = true ↔
      ∃ searcher, Searcher.make source flags = .ok searcher ∧ (searcher.test text).1 = true := by
  rw [matchesPattern_eq h, Searcher.exists_make_test_iff, Option.any_eq_true]

/-- A pattern with delimiters matches in a text just where its body with its flags is a regular
expression and the first search of a new searcher for it finds something; any other pattern is a
source without flags. No pattern has two bodies or two texts of flags. And a matcher, which cuts the
patterns with one searcher, answers just this with enough steps: no call fails, and calls one after
the other are answered as if each were the first, whatever flags they have. -/
theorem matchesPattern_of_delimiters :
    (∀ pattern body flags text, IsDelimited pattern body flags →
      (matchesPattern pattern text = true ↔
        ∃ searcher, Searcher.make body flags = .ok searcher ∧ (searcher.test text).1 = true)) ∧
    (∀ pattern text, (¬ ∃ body flags, IsDelimited pattern body flags) →
      (matchesPattern pattern text = true ↔
        ∃ searcher, Searcher.make pattern [] = .ok searcher ∧ (searcher.test text).1 = true)) ∧
    (∀ pattern body flags body' flags', IsDelimited pattern body flags →
      IsDelimited pattern body' flags' → body = body' ∧ flags = flags') ∧
    ∃ matcher, Matcher.make = .ok matcher ∧
      (∀ pattern text, ∃ enough, ∀ steps, enough ≤ steps →
        (matcher.call steps pattern text).1 = .ok (matchesPattern pattern text)) ∧
      (∀ steps pattern text, ∃ answer, (matcher.call steps pattern text).1 = .ok answer) ∧
      ∀ steps calls, matcher.answers steps calls =
        (calls.map fun (pattern, text) => (matcher.call steps pattern text).1, matcher) := by
  refine ⟨?_, ?_, ?_, Matcher.forPatterns, Matcher.make_eq, ?_, ?_, ?_⟩
  · intro pattern body flags text h
    exact matchesPattern_iff (bodyAndFlags_of_isDelimited h)
  · intro pattern text h
    exact matchesPattern_iff (bodyAndFlags_of_not h)
  · intro pattern body flags body' flags' h h'
    exact h.unique h'
  · exact Matcher.exists_call_eq
  · intro steps pattern text
    exact ⟨_, congrArg Prod.fst (Matcher.call_eq rfl)⟩
  · exact Matcher.answers_eq

/-- A searcher that is kept and goes on from its last search does not find the same twice. -/
example : (Searcher.make "a" "g").toOption.map (fun searcher =>
    ((searcher.test "a").1, ((searcher.test "a").2.test "a").1)) = some (true, false) := by
  decide

end Regex

end FieldValidation
