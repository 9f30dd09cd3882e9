import FieldValidation.Regex.Delimited

/-!
# Searching again and again

A searcher is a regular expression with a place in the texts that it searches. With the flag `g` or
`y` a search begins at that place and moves it to where the match ends, or back to the start where
there is no match, so that the same search can come out differently the next time. Without these
flags every search begins at the start, and the place is not looked at.

A matcher tells whether patterns match in texts. It cuts a pattern into its source and its flags
with a searcher that all its calls share, and makes a new searcher for what it has cut out.

## Main definitions

* `Regex.Searcher`: a regular expression with a place
* `Regex.Searcher.exec`: a search, and the searcher after it
* `Regex.Matcher.call`: whether a pattern matches in a text, and the matcher after the call
* `Regex.Matcher.answers`: calls one after the other
-/

namespace FieldValidation

namespace Regex

/-- The way on which a search succeeds within a number of steps. -/
def Configuration.outcome (s : Subject) : Nat → Configuration → Option Way
  | 0, _ => none
  | steps + 1, config =>
    match config.step s with
    | .error true => config.way
    | .error false => none
    | .ok next => outcome s steps next

/-- The text of the characters between two places. -/
def textBetween (characters : List Nat) (start finish : Nat) : Text :=
  Text.ofCodePoints ((characters.take finish).drop start)

/-- The place among characters of the one that a unit of their text belongs to. -/
def placeOfUnit : List Nat → Nat → Nat
  | [], _ => 0
  | c :: rest, place =>
    let length := (Text.ofCodePoint c).length
    if place < length then 0 else placeOfUnit rest (place - length) + 1

/-- A match: the unit of the text after it, and the texts that the groups have kept, by their
numbers. -/
structure Found where
  finish : Nat
  groups : List (Option Text)

namespace Found

/-- What a way has found once nothing is left to do on it. -/
def ofWay (characters : List Nat) (way : Way) : Found where
  finish := (textBetween characters 0 way.place).length
  groups := way.captures.map fun kept =>
    kept.map fun (start, finish) => textBetween characters start finish

/-- The text of a group; none is as good as an empty one. -/
def group (found : Found) (index : Nat) : Text := (found.groups[index]?).join.getD []

end Found

/-- Why there is no searcher. -/
inductive Fault where
  /-- The source with these flags is no regular expression. -/
  | malformed (source flags : Text)

/-- A regular expression that texts are searched for, and the unit at which the next search begins,
if it is to go on from the last one. -/
structure Searcher where
  regex : Regex
  /-- A search goes on from the last one. -/
  goesOn : Bool
  place : Nat

namespace Searcher

/-- A new searcher for a source with flags. -/
def make (source flags : Text) : Except Fault Searcher :=
  match compile? source flags with
  | some regex => .ok ⟨regex, flags.contains (unit 'g') || regex.flags.sticky, 0⟩
  | none => .error (.malformed source flags)

/-- The match that begins at a place among the characters of a text. -/
def foundAt (steps : Nat) (regex : Regex) (t : Text) (place : Nat) : Option Found :=
  let characters := charactersOf regex.flags.unicode t
  let subject : Subject := ⟨characters.toArray, regex.flags, regex.flags.wordCharacters⟩
  let way : Way := ⟨[.node regex.node true], place, List.replicate (regex.groupCount + 1) none⟩
  (Configuration.outcome subject steps ⟨some way, []⟩).map (Found.ofWay characters)

/-- A search in a text, given up at a place after a number of steps; and the searcher after it. -/
def exec (steps : Nat) (searcher : Searcher) (t : Text) : Option Found × Searcher :=
  let regex := searcher.regex
  let characters := charactersOf regex.flags.unicode t
  let start := if searcher.goesOn then searcher.place else 0
  let first := placeOfUnit characters start
  let places :=
    if t.length < start then []
    else if regex.flags.sticky then [first]
    else (List.range (characters.length + 1)).drop first
  let found := places.findSome? (foundAt steps regex t)
  let place := (found.map Found.finish).getD 0
  (found, if searcher.goesOn then { searcher with place } else searcher)

/-- Whether a search finds something; and the searcher after it. -/
def test (searcher : Searcher) (t : Text) : Bool × Searcher :=
  let (found, searcher) := searcher.exec stepLimit t
  (found.isSome, searcher)

end Searcher

/-- The pattern of the patterns with delimiters. -/
def delimitedPattern : Text := "^\\/([\\s\\S]*)\\/([a-z]*)$"

/-- What tells whether patterns match: the searcher for delimiters, which all calls share. -/
structure Matcher where
  delimiters : Searcher

namespace Matcher

/-- A new matcher. -/
def make : Except Fault Matcher := do return ⟨← Searcher.make delimitedPattern []⟩

/-- The source and the flags of a pattern; and the matcher after the search for its delimiters. -/
def cut (steps : Nat) (m : Matcher) (pattern : Text) : (Text × Text) × Matcher :=
  let (found, delimiters) := m.delimiters.exec steps pattern
  match found with
  | some found => ((found.group 1, found.group 2), ⟨delimiters⟩)
  | none => ((pattern, []), ⟨delimiters⟩)

/-- Whether a pattern matches in a text; and the matcher after the call. A pattern that is no
regular expression does not match. -/
def call (steps : Nat) (m : Matcher) (pattern text : Text) : Except Fault Bool × Matcher :=
  let ((source, flags), m) := m.cut steps pattern
  match Searcher.make source flags with
  | .ok searcher => (.ok (searcher.test text).1, m)
  | .error (.malformed _ _) => (.ok false, m)

/-- The answers to calls one after the other, each with a pattern and a text; and the matcher after
them. -/
def answers (steps : Nat) (m : Matcher) : List (Text × Text) → List (Except Fault Bool) × Matcher
  | [] => ([], m)
  | (pattern, text) :: calls =>
    let (answer, m) := m.call steps pattern text
    let (rest, m) := answers steps m calls
    (answer :: rest, m)

end Matcher

end Regex

end FieldValidation
