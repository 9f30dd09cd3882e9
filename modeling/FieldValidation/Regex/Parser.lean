import FieldValidation.Regex.Class
import FieldValidation.Regex.Escape

/-!
# Reading patterns

The tree of a pattern. Patterns read by code points are held to the grammar; in the others, what
has no other meaning stands for itself.

## Main definitions

* `Regex.Parse`: reading off the characters that are left
* `Regex.disjunction`: the tree of a pattern
* `Regex.parse?`: the tree of a whole pattern
-/

namespace FieldValidation

namespace Regex

/-- What is known of a pattern from the start: its flags and the names of its groups. -/
structure Context where
  flags : Flags
  groups : List (Option (List Nat))

/-- Whether a pattern has named groups. -/
def Context.named (context : Context) : Bool := context.groups.any Option.isSome

/-- The characters that are left of a pattern, and the number of groups opened so far. -/
structure Source where
  rest : List Nat
  opened : Nat

/-- Reading off the characters that are left; it fails where a pattern is not one. -/
abbrev Parse := ReaderT Context (StateT Source Option)

namespace Parse

/-- The characters that are left. -/
def left : Parse (List Nat) := return (← get).rest

/-- Goes on with other characters left. -/
def goTo (cs : List Nat) : Parse Unit := modify fun s => { s with rest := cs }

/-- The next character, if there is one. -/
def peek : Parse (Option Nat) := return (← left).head?

/-- Takes one character if it is the next. -/
def take (c : Char) : Parse Bool := do
  match ← left with
  | d :: cs => if d = code c then goTo cs; return true else return false
  | [] => return false

/-- Takes one character, which must be the next. -/
def expect (c : Char) : Parse Unit := do
  unless ← take c do failure

/-- Takes a string of characters if it comes next. -/
def takeAll (s : String) : Parse Bool := do
  let cs ← left
  let wanted := s.toList.map code
  if cs.take wanted.length = wanted then goTo (cs.drop wanted.length); return true
  else return false

/-- Reads what a function reads off the characters that are left. -/
def lift {α : Type} (read : List Nat → Option (α × List Nat)) : Parse α := do
  match read (← left) with
  | some (value, rest) => goTo rest; return value
  | none => failure

/-- What was read, which must be there. -/
def some! {α : Type} : Option α → Parse α
  | some value => return value
  | none => failure

/-- The flags of the pattern. -/
def flags : Parse Flags := return (← read).flags

end Parse

open Parse

/-- The node of one character. -/
def literal (c : Nat) : Parse Node := return .characters ((← flags).close (.single c))

/-- The name or the value of a property. -/
def propertyWord : Parse String := do
  let cs ← left
  let isWordPart (c : Nat) : Bool := isLetter c || isDigit c || c == code '_'
  let word := cs.takeWhile isWordPart
  if word.isEmpty then failure
  goTo (cs.dropWhile isWordPart)
  return String.ofList (word.map Char.ofNat)

/-- The class of a property, after the letter that asks for it. -/
def property (negated : Bool) : Parse ClassValue := do
  expect '\x7b'
  let name ← propertyWord
  let value ← if ← take '=' then some <$> propertyWord else pure none
  expect '\x7d'
  some! (property? (← flags) negated name value)

/-- A class that is written as an escape, after the backslash; `none` if what comes is something
else. -/
def classEscape : Parse (Option ClassValue) := do
  match ← left with
  | [] => failure
  | c :: rest =>
    let flags ← flags
    match shorthand? flags c with
    | some s => goTo rest; return some (.ofSet s)
    | none =>
      if flags.unicode && (c == code 'p' || c == code 'P') then
        goTo rest
        return some (← property (c == code 'P'))
      else return none

/-- A character that is written as an escape, after the backslash. -/
def escapedCharacter (inClass : Bool) : Parse Nat := do
  let context ← read
  lift (characterEscape? context.flags context.named inClass)

/-- An item of a class: a character, or the set of an escape. -/
def classAtom : Parse (Nat ⊕ CharacterSet) := do
  match ← left with
  | [] => failure
  | c :: rest =>
    goTo rest
    if c ≠ code '\\' then return .inl c
    match ← classEscape with
    | some value => return .inr value.characters
    | none => if ← take 'b' then return .inl 0x08 else return .inl (← escapedCharacter true)

/-- The characters of an item. -/
def atomSet : Nat ⊕ CharacterSet → CharacterSet
  | .inl c => .single c
  | .inr s => s

/-- The items of a class up to its closing bracket. A dash between two characters makes a range;
beside a set it is itself, in lenient patterns. -/
def classItems : Nat → Parse CharacterSet
  | 0 => failure
  | fuel + 1 => do
    if ← take ']' then return []
    let first ← classAtom
    match ← left with
    | d :: b :: _ =>
      if d = code '-' ∧ b ≠ code ']' then
        expect '-'
        let second ← classAtom
        let items ← match first, second with
          | .inl low, .inl high =>
            if low ≤ high then pure [(low, high)] else failure
          | _, _ =>
            if (← flags).unicode then failure
            else pure (atomSet first ++ CharacterSet.single (code '-') ++ atomSet second)
        return items ++ (← classItems fuel)
      else return atomSet first ++ (← classItems fuel)
    | _ => return atomSet first ++ (← classItems fuel)

/-- The characters that must be escaped inside a set. -/
def isSetSyntax (c : Nat) : Bool := isOneOf "()[]\x7b\x7d/-\\|" c

/-- The characters that have no meaning when doubled inside a set. -/
def isReservedDouble (c : Nat) : Bool := isOneOf "&!#$%*+,.:;<=>?@^`~" c

/-- A character of a set. -/
def setCharacter : Parse Nat := do
  match ← left with
  | [] => failure
  | c :: rest =>
    if c = code '\\' then
      goTo rest
      if ← take 'b' then return 0x08 else escapedCharacter true
    else if isSetSyntax c || (isReservedDouble c && rest.head? == some c) then failure
    else goTo rest; return c

/-- The strings of a set up to the closing brace, the characters of the first one given so far in
reverse. -/
def setStrings : Nat → List Nat → Parse (List (List Nat))
  | 0, _ => failure
  | fuel + 1, done => do
    if ← take '\x7d' then return [done.reverse]
    else if ← take '|' then return done.reverse :: (← setStrings fuel [])
    else setStrings fuel ((← setCharacter) :: done)

/-- The class of some strings; those of one character are characters. -/
def classOfStrings (flags : Flags) (strings : List (List Nat)) : ClassValue where
  characters := flags.close (.ofRanges ((strings.filter (·.length = 1)).flatMap fun s =>
    s.map fun c => (c, c)))
  strings := ((strings.filter (·.length ≠ 1)).map (·.map flags.canonical)).eraseDups
  mayHoldStrings := strings.any (·.length ≠ 1)

/-- The class of the characters from one to another. -/
def classOfRange (flags : Flags) (low high : Nat) : ClassValue :=
  .ofSet (flags.close [(low, high)])

mutual

/-- A set after its opening bracket. -/
def setClass (fuel : Nat) : Parse ClassValue := do
  match fuel with
  | 0 => failure
  | fuel + 1 =>
    let negated ← take '^'
    let value ← setContents fuel
    if negated then some! value.complement? else return value

/-- The contents of a set up to its closing bracket. -/
def setContents (fuel : Nat) : Parse ClassValue := do
  match fuel with
  | 0 => failure
  | fuel + 1 =>
    if ← take ']' then return .ofSet []
    let (first, character) ← setOperand fuel
    match ← left with
    | c :: d :: _ =>
      if c = code '-' ∧ d = code '-' then setDifference fuel first
      else if c = code '&' ∧ d = code '&' then setIntersection fuel first
      else setUnion fuel first character
    | _ => setUnion fuel first character

/-- An operand of a set, and the character that it is, if it is one. -/
def setOperand (fuel : Nat) : Parse (ClassValue × Option Nat) := do
  match fuel with
  | 0 => failure
  | fuel + 1 =>
    if ← take '[' then return (← setClass fuel, none)
    else if ← takeAll "\\q\x7b" then
      return (classOfStrings (← flags) (← setStrings (fuel + 1) []), none)
    else
      if ← take '\\' then
        match ← classEscape with
        | some value => return (value, none)
        | none =>
          let c ← if ← take 'b' then pure 0x08 else escapedCharacter true
          return (classOfRange (← flags) c c, some c)
      else
        let c ← setCharacter
        return (classOfRange (← flags) c c, some c)

/-- The rest of a difference. -/
def setDifference (fuel : Nat) (value : ClassValue) : Parse ClassValue := do
  match fuel with
  | 0 => failure
  | fuel + 1 =>
    if ← take ']' then return value
    unless ← takeAll "--" do failure
    let (operand, _) ← setOperand fuel
    setDifference fuel (value.diff operand)

/-- The rest of an intersection. -/
def setIntersection (fuel : Nat) (value : ClassValue) : Parse ClassValue := do
  match fuel with
  | 0 => failure
  | fuel + 1 =>
    if ← take ']' then return value
    unless ← takeAll "&&" do failure
    if (← peek) = some (code '&') then failure
    let (operand, _) ← setOperand fuel
    setIntersection fuel (value.inter operand)

/-- The rest of a union; the last operand may be the lower end of a range. -/
def setUnion (fuel : Nat) (value : ClassValue) (last : Option Nat) : Parse ClassValue := do
  match fuel with
  | 0 => failure
  | fuel + 1 =>
    if ← take ']' then return value
    if ← take '-' then
      match last, ← setOperand fuel with
      | some low, (_, some high) =>
        if low ≤ high then setUnion fuel (value.union (classOfRange (← flags) low high)) none
        else failure
      | _, _ => failure
    else
      let (operand, character) ← setOperand fuel
      setUnion fuel (value.union operand) character

end

/-- A class after its opening bracket. -/
def characterClass : Parse Node := do
  let flags ← flags
  let fuel := 2 * (← left).length + 2
  if flags.sets then return (← setClass fuel).toNode flags.close
  else
    let negated ← take '^'
    let items ← classItems fuel
    let s := flags.close (.ofRanges items)
    return .characters (if negated then s.complement else s)

/-- The number of the group with a name. -/
def groupNumber? (groups : List (Option (List Nat))) (name : List Nat) : Option Nat :=
  (groups.findIdx? (· == some name)).map (· + 1)

/-- What a backslash outside classes begins, and whether it can be repeated. -/
def atomEscape : Parse (Node × Bool) := do
  let context ← read
  let flags := context.flags
  match ← left with
  | [] => failure
  | c :: rest =>
    if c = code 'b' then goTo rest; return (.anchor .wordBoundary, false)
    else if c = code 'B' then goTo rest; return (.anchor .noWordBoundary, false)
    else if c = code 'k' && (flags.unicode || context.named) then
      goTo rest
      expect '<'
      let name ← lift groupName?
      return (.reference (← some! (groupNumber? context.groups name)), true)
    else
      match if isDigit c && c != code '0' then decimal? (c :: rest) else none with
      | some (n, after) =>
        -- beyond the groups of the pattern the digits are an escape like others
        if n ≤ context.groups.length then goTo after; return (.reference n, true)
        else return (← literal (← escapedCharacter false), true)
      | none =>
        match ← classEscape with
        | some value =>
          if flags.sets then return (value.toNode flags.close, true)
          else return (.characters (flags.close value.characters), true)
        | none => return (← literal (← escapedCharacter false), true)

/-- The counts of a repetition, if one comes next; it is greedy unless a question mark says
otherwise. -/
def quantifier : Parse (Option (Nat × Option Nat × Bool)) := do
  let counts ← match ← left with
    | [] => pure none
    | c :: rest =>
      if c = code '*' then goTo rest; pure (some (0, none))
      else if c = code '+' then goTo rest; pure (some (1, none))
      else if c = code '?' then goTo rest; pure (some (0, some 1))
      else if c = code '\x7b' then
        match braces? rest with
        | some (counts, after) => goTo after; pure (some counts)
        -- a brace without counts is no repetition but an atom of its own
        | none => pure none
      else pure none
  match counts with
  | none => return none
  | some (least, most) =>
    if most.any (· < least) then failure
    return some (least, most, !(← take '?'))

mutual

/-- Alternatives, up to the end or a closing parenthesis. -/
def disjunction (fuel : Nat) : Parse Node := do
  match fuel with
  | 0 => failure
  | fuel + 1 =>
    let first ← alternative fuel
    if ← take '|' then return .either first (← disjunction fuel) else return first

/-- One alternative. -/
def alternative (fuel : Nat) : Parse Node := do
  match fuel with
  | 0 => failure
  | fuel + 1 =>
    match ← peek with
    | none => return .empty
    | some c =>
      if c = code '|' ∨ c = code ')' then return .empty
      let first ← term fuel
      return .sequence first (← alternative fuel)

/-- An atom with the repetition after it. -/
def term (fuel : Nat) : Parse Node := do
  match fuel with
  | 0 => failure
  | fuel + 1 =>
    let before := (← get).opened
    let (node, repeatable) ← atom fuel
    if repeatable then
      match ← quantifier with
      | some (least, most, greedy) =>
        -- the groups that were opened by the atom are those of a round
        return .repetition node least most greedy (before + 1) ((← get).opened + 1)
      | none => return node
    else return node

/-- An atom, and whether it can be repeated. -/
def atom (fuel : Nat) : Parse (Node × Bool) := do
  match fuel with
  | 0 => failure
  | fuel + 1 =>
    let flags ← flags
    match ← left with
    | [] => failure
    | c :: rest =>
      goTo rest
      if c = code '^' then return (.anchor .start, false)
      else if c = code '$' then return (.anchor .finish, false)
      else if c = code '.' then
        return (.characters (if flags.dotAll then [(0, CharacterSet.maxCodePoint)]
          else CharacterSet.complement lineEnds), true)
      else if c = code '(' then group fuel
      else if c = code '[' then return (← characterClass, true)
      else if c = code '\\' then atomEscape
      else if isOneOf "*+?)" c then failure
      else if isOneOf "\x7b\x7d]" c && flags.unicode then failure
      else if c = code '\x7b' && (braces? rest).isSome then failure
      else return (← literal c, true)

/-- What an opening parenthesis begins, and whether it can be repeated: looking ahead can be in
lenient patterns, looking behind never. -/
def group (fuel : Nat) : Parse (Node × Bool) := do
  match fuel with
  | 0 => failure
  | fuel + 1 =>
    if ← takeAll "?:" then return (← body fuel, true)
    else if ← takeAll "?=" then return (.look true true (← body fuel), !(← flags).unicode)
    else if ← takeAll "?!" then return (.look true false (← body fuel), !(← flags).unicode)
    else if ← takeAll "?<=" then return (.look false true (← body fuel), false)
    else if ← takeAll "?<!" then return (.look false false (← body fuel), false)
    else
      -- the names were gathered beforehand, so here this one is passed over
      if ← takeAll "?<" then let _ ← lift groupName?
      else if (← peek) = some (code '?') then failure
      let index := (← get).opened + 1
      modify fun s => { s with opened := index }
      return (.capture index (← body fuel), true)

/-- The inside of a group and its closing parenthesis. -/
def body (fuel : Nat) : Parse Node := do
  match fuel with
  | 0 => failure
  | fuel + 1 =>
    let node ← disjunction fuel
    expect ')'
    return node

end

/-- Whether no name is given to two groups. -/
def namesDiffer (groups : List (Option (List Nat))) : Bool :=
  let names := groups.filterMap id
  names.eraseDups.length == names.length

/-- The tree of a whole pattern, and the number of its groups. Every call of the reading
functions takes a character or is one of six in a row. -/
def parse? (flags : Flags) (pattern : List Nat) : Option (Node × Nat) := do
  let groups := groupNames pattern
  if !namesDiffer groups then none
  else
    let (node, source) ← (disjunction (6 * pattern.length + 6)).run ⟨flags, groups⟩ |>.run
      ⟨pattern, 0⟩
    if source.rest.isEmpty then some (node, groups.length) else none

end Regex

end FieldValidation
