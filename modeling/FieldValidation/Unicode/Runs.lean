/-!
# Tables of runs

A table of a property is written as a text of words: the lengths of runs of code points, in base
36, and whatever is said of the runs.

## Main definitions

* `words`: the words of a table
* `runLength`: the length that a word spells
* `rangesOfRuns`, `rangesOfLabelledRuns`: the ranges of code points that a table tells of
-/

namespace FieldValidation.Unicode

/-- The words of a table, read from the end: the word at the front so far, and those after it. -/
def wordsFrom : List Char → List Char × List String
  | [] => ([], [])
  | c :: cs =>
    let (word, rest) := wordsFrom cs
    if c = ' ' then ([], String.ofList word :: rest) else (c :: word, rest)

/-- The words of a table. -/
def words (table : String) : List String :=
  let (word, rest) := wordsFrom table.toList
  String.ofList word :: rest

/-- The number that a word spells in base 36. -/
def runLength (word : String) : Nat :=
  word.toList.foldl
    (fun n c => n * 36 + (if c.isDigit then c.toNat - 48 else c.toNat - 87)) 0

/-- The ranges of every second run, the first run starting at `first`; `inside` tells whether
it is one of them. -/
def rangesOfRuns (first : Nat) (inside : Bool) : List String → List (Nat × Nat)
  | [] => if inside then [(first, 0x10FFFF)] else []
  | word :: rest =>
    let next := first + runLength word
    let others := rangesOfRuns next (!inside) rest
    if inside && first < next then (first, next - 1) :: others else others

/-- The ranges of the runs with a label that `wanted` asks for, the first run starting at
`first`. -/
def rangesOfLabelledRuns (wanted : String → Bool) (first : Nat) :
    List String → List (Nat × Nat)
  | word :: label :: rest =>
    let next := first + runLength word
    let others := rangesOfLabelledRuns wanted next rest
    if wanted label && first < next then (first, next - 1) :: others else others
  | _ => []

/-- The ranges of the runs that `wanted` asks for by their labels, where a gap stands before
every run: a table of gaps, lengths and lists of labels. -/
def rangesOfSparseRuns (wanted : List String → Bool) (first : Nat) :
    List String → List (Nat × Nat)
  | gap :: word :: labels :: rest =>
    let start := first + runLength gap
    let next := start + runLength word
    let others := rangesOfSparseRuns wanted next rest
    if wanted (labels.splitOn ".") then (start, next - 1) :: others else others
  | _ => []

end FieldValidation.Unicode
