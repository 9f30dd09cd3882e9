import FieldValidation.Regex.Syntax

/-!
# Matching

A text is searched by backtracking. What is left to do is a list of tasks; where there is a
choice, the way not taken is put on a stack, and taken up again when the way taken fails. A look
ahead or behind puts a barrier on the stack: once it is decided, its own choices are dropped.

## Main definitions

* `Configuration.step`: one step of the search
* `Node.matchesAt`, `Node.search`: whether there is a match
-/

namespace FieldValidation

namespace Regex

/-- A repetition under way. -/
structure Round where
  body : Node
  least : Nat
  most : Option Nat
  greedy : Bool
  firstGroup : Nat
  endGroup : Nat

/-- What is left to do. The direction is that in which characters are taken. -/
inductive Task where
  | node (n : Node) (forward : Bool)
  /-- To begin another round of a repetition, or to leave it. -/
  | again (round : Round) (forward : Bool)
  /-- To end a round that began at a place; a round that need not be and takes nothing fails. -/
  | endRound (round : Round) (forward : Bool) (start : Nat)
  /-- To keep the text of a group that began at a place. -/
  | keep (index start : Nat)
  /-- To end a look ahead or behind. -/
  | endLook

/-- The places between which the text of each group lies. -/
abbrev Captures := List (Option (Nat × Nat))

/-- A way to go on: what is left to do, from which place, with which texts kept. -/
structure Way where
  tasks : List Task
  place : Nat
  captures : Captures

/-- What is on the stack. -/
inductive Choice where
  /-- A way not taken. -/
  | resume (way : Way)
  /-- A look ahead or behind under way; how to go on after it, and whether it is wanted. -/
  | barrier (wanted : Bool) (way : Way)

/-- The text that is searched, and how. -/
structure Subject where
  characters : Array Nat
  flags : Flags
  words : CharacterSet

namespace Subject

/-- The character before a place. -/
def before? (s : Subject) (place : Nat) : Option Nat :=
  if place = 0 then none else s.characters[place - 1]?

/-- The next character in a direction, and the place after it. -/
def next? (s : Subject) (forward : Bool) (place : Nat) : Option (Nat × Nat) :=
  if forward then (s.characters[place]?).map (·, place + 1)
  else (s.before? place).map (·, place - 1)

/-- Whether there is a word character. -/
def isWord (s : Subject) (c : Option Nat) : Bool := c.any s.words.has

/-- Whether a place is where an anchor asks for. -/
def isAt (s : Subject) (place : Nat) : Anchor → Bool
  | .start => place = 0 || s.flags.multiline && (s.before? place).any lineEnds.has
  | .finish =>
    place = s.characters.size || s.flags.multiline && (s.characters[place]?).any lineEnds.has
  | .wordBoundary => s.isWord (s.before? place) != s.isWord s.characters[place]?
  | .noWordBoundary => s.isWord (s.before? place) == s.isWord s.characters[place]?

/-- Whether the characters between two places stand again at a third, letter case aside where it
does not count. -/
def repeats (s : Subject) (start length place : Nat) : Bool :=
  place + length ≤ s.characters.size &&
    (List.range length).all fun k =>
      (s.characters[start + k]?).map s.flags.canonical ==
        (s.characters[place + k]?).map s.flags.canonical

end Subject

/-- A search: the way it is on, if that has not failed, and the stack. -/
structure Configuration where
  way : Option Way
  stack : List Choice

/-- The stack below the topmost barrier, with the barrier. -/
def dropToBarrier : List Choice → Option ((Bool × Way) × List Choice)
  | [] => none
  | .barrier wanted way :: rest => some ((wanted, way), rest)
  | .resume _ :: rest => dropToBarrier rest

/-- The captures with the groups from one number up to below another forgotten. -/
def forget (captures : Captures) (firstGroup endGroup : Nat) : Captures :=
  captures.mapIdx fun i c => if firstGroup ≤ i ∧ i < endGroup then none else c

namespace Configuration

/-- The way has failed: the last one not taken is taken up. A look that fails is what an unwanted
one asks for. `none` if there is no way left. -/
def backtrack : List Choice → Option Configuration
  | [] => none
  | .resume way :: rest => some ⟨some way, rest⟩
  | .barrier wanted way :: rest => if wanted then backtrack rest else some ⟨some way, rest⟩

/-- A match of a node, with `tasks` left to do after it. -/
def enter (s : Subject) (way : Way) (tasks : List Task) (stack : List Choice) (forward : Bool) :
    Node → Configuration
  | .empty => ⟨some { way with tasks }, stack⟩
  | .characters set =>
    match s.next? forward way.place with
    | some (c, place) =>
      ⟨if set.has c then some { way with tasks, place } else none, stack⟩
    | none => ⟨none, stack⟩
  | .sequence a b =>
    -- looking behind, the last part comes first
    let (first, second) := if forward then (a, b) else (b, a)
    ⟨some { way with tasks := .node first forward :: .node second forward :: tasks }, stack⟩
  | .either a b =>
    ⟨some { way with tasks := .node a forward :: tasks },
      .resume { way with tasks := .node b forward :: tasks } :: stack⟩
  | .anchor a => ⟨if s.isAt way.place a then some { way with tasks } else none, stack⟩
  | .capture index body =>
    ⟨some { way with tasks := .node body forward :: .keep index way.place :: tasks }, stack⟩
  | .reference index =>
    match (way.captures[index]?).join with
    -- a group that has captured nothing is repeated by the empty text
    | none => ⟨some { way with tasks }, stack⟩
    | some (start, finish) =>
      let length := finish - start
      if forward then
        ⟨if s.repeats start length way.place then
            some { way with tasks, place := way.place + length }
          else none, stack⟩
      else
        ⟨if length ≤ way.place && s.repeats start length (way.place - length) then
            some { way with tasks, place := way.place - length }
          else none, stack⟩
  | .look ahead wanted body =>
    -- the body is searched by itself: the tasks after it wait at the barrier
    ⟨some { way with tasks := [.node body ahead, .endLook] },
      .barrier wanted { way with tasks } :: stack⟩
  | .repetition body least most greedy firstGroup endGroup =>
    ⟨some { way with
        tasks := .again ⟨body, least, most, greedy, firstGroup, endGroup⟩ forward :: tasks },
      stack⟩

/-- Another round of a repetition, or the way out of it. -/
def beginRound (way : Way) (tasks : List Task) (stack : List Choice) (forward : Bool)
    (round : Round) : Configuration :=
  let out : Way := { way with tasks }
  let inside : Way :=
    { way with
      tasks := .node round.body forward :: .endRound round forward way.place :: tasks
      -- what the groups inside captured in an earlier round does not count in this one
      captures := forget way.captures round.firstGroup round.endGroup }
  if round.most = some 0 then ⟨some out, stack⟩
  else if round.least ≠ 0 then ⟨some inside, stack⟩
  else if round.greedy then ⟨some inside, .resume out :: stack⟩
  else ⟨some out, .resume inside :: stack⟩

/-- One step of the search: the next configuration, or the answer. -/
def step (s : Subject) (config : Configuration) : Except Bool Configuration :=
  match config.way with
  | none =>
    match backtrack config.stack with
    | some next => .ok next
    | none => .error false
  | some way =>
    match way.tasks with
    | [] => .error true
    | .node n forward :: tasks => .ok (enter s way tasks config.stack forward n)
    | .again round forward :: tasks => .ok (beginRound way tasks config.stack forward round)
    | .endRound round forward start :: tasks =>
      -- a round that is not asked for has to take something, or the rounds would never end
      if round.least = 0 ∧ way.place = start then .ok ⟨none, config.stack⟩
      else
        let next : Round :=
          { round with least := round.least - 1, most := round.most.map (· - 1) }
        .ok ⟨some { way with tasks := .again next forward :: tasks }, config.stack⟩
    | .keep index start :: tasks =>
      -- looking behind, the group was entered at its end
      let kept := (min start way.place, max start way.place)
      .ok ⟨some { way with tasks, captures := way.captures.set index (some kept) }, config.stack⟩
    | .endLook :: _ =>
      match dropToBarrier config.stack with
      -- the ways inside the look are given up, what they captured is kept
      | some ((true, after), stack) =>
        .ok ⟨some { after with captures := way.captures }, stack⟩
      | some ((false, _), stack) => .ok ⟨none, stack⟩
      | none => .error false

/-- The answer of a search within a number of steps; no match is found in more. -/
def run (s : Subject) : Nat → Configuration → Bool
  | 0, _ => false
  | fuel + 1, config =>
    match config.step s with
    | .error answer => answer
    | .ok next => run s fuel next

end Configuration

/-- The number of steps after which a search is given up, far beyond any that ends. -/
def stepLimit : Nat := 0x4000000000000000

/-- Whether there is a match that begins at a place. -/
def Node.matchesAt (node : Node) (groupCount : Nat) (s : Subject) (place : Nat) : Bool :=
  Configuration.run s stepLimit
    ⟨some ⟨[.node node true], place, List.replicate (groupCount + 1) none⟩, []⟩

/-- Whether there is a match, at the start or anywhere. -/
def Node.search (node : Node) (groupCount : Nat) (s : Subject) : Bool :=
  if s.flags.sticky then node.matchesAt groupCount s 0
  else (List.range (s.characters.size + 1)).any (node.matchesAt groupCount s)

end Regex

end FieldValidation
