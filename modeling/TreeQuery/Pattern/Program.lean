/-
  TreeQuery.Pattern.Program

  A pattern as a program: a flat list of steps. A step tests one node at some depth
  below the place where the pattern began; the list order is the order in which
  nodes are met. Steps can also branch: an alternative is a second step to go on
  with, a dead end only jumps, and a pass-through branches and goes on at once.

  * An item adds its step and then the steps of its children, one level deeper.
  * A choice puts a dead end after each branch but the last; it leads past the
    choice, and each branch has the next one as the alternative of its first step.
  * A repetition ends with a pass-through back to its first step; an optional item
    has, at the end of its first step's alternatives, a jump past itself.
  * The last step of a program is the one that says the pattern is complete.

  `Program.starts` are the steps that a match can begin with.
-/

import TreeQuery.Pattern.Item

namespace TreeQuery

/-- One step of a program. -/
structure Step where
  test : NodeTest
  /-- How far below the beginning the node stands; `none` says that the pattern is complete. -/
  depth : Option Nat
  field : Option String
  /-- Indexes of the captures that take the node. -/
  captures : List Nat
  /-- Fields that the node must not have. -/
  absent : List String
  /-- No named node may lie between the node before and this one. -/
  immediate : Bool
  /-- No named sibling may follow. -/
  lastChild : Bool
  /-- Another step to go on with. -/
  alternative : Option Nat
  /-- A match that goes on with the alternative must use the very next node. -/
  alternativeImmediate : Bool
  /-- Branches without a test. -/
  passThrough : Bool
  /-- Jumps to its alternative without a test. -/
  deadEnd : Bool
  deriving Repr, Inhabited

namespace Step

/-- The step of a test. -/
def ofTest (test : NodeTest) (depth : Nat) (immediate : Bool) : Step where
  test := test
  depth := some depth
  field := none
  captures := []
  absent := []
  immediate := immediate
  lastChild := false
  alternative := none
  alternativeImmediate := false
  passThrough := false
  deadEnd := false

/-- The step that says that the pattern is complete. -/
def complete : Step := { ofTest .anything 0 false with depth := none }

/-- A step between the branches of a choice. -/
def placeholder (depth : Nat) : Step := ofTest .anything depth false

/-- The end of a repetition that starts at step `start`. -/
def repetition (depth start : Nat) : Step :=
  { ofTest .anything depth false with
    alternative := some start
    passThrough := true
    alternativeImmediate := true }

/-- Whether the pattern is complete. -/
def isComplete (s : Step) : Bool := s.depth.isNone

/-- Whether the step tests no kind; a test for a supertype is such a one. -/
def isWild (s : Step) : Bool := s.test.symbol == .wild

/-- A step holds at most this many captures. -/
def maxCaptures : Nat := 3

/-- Adds a capture while there is room. -/
def addCapture (s : Step) (index : Nat) : Step :=
  if s.captures.length < maxCaptures then { s with captures := s.captures ++ [index] } else s

end Step

/-- Steps in order, and where items start in the text. -/
structure Program where
  steps : Array Step
  /-- Steps with the offset of the item that starts there, last first; of several items that
  start at one step the outermost counts. -/
  origins : List (Nat × Nat)
  deriving Repr, Inhabited

namespace Program

def empty : Program := ⟨#[], []⟩

def size (p : Program) : Nat := p.steps.size

def push (p : Program) (s : Step) : Program := { p with steps := p.steps.push s }

def modify (p : Program) (i : Nat) (f : Step → Step) : Program :=
  { p with steps := p.steps.modify i f }

/-- Notes that an item at `offset` starts with the next step. -/
def noteOrigin (p : Program) (offset : Nat) : Program :=
  if p.origins.head?.any (·.1 == p.size) then p
  else { p with origins := (p.size, offset) :: p.origins }

def alternative? (p : Program) (i : Nat) : Option Nat := p.steps[i]?.bind (·.alternative)

/-- Applies `f` at step `i` and along its alternatives while they lead forward inside the
program. -/
def modifyForward (p : Program) (i : Nat) (f : Step → Step) : Nat → Program
  | 0 => p
  | fuel + 1 =>
    let p := p.modify i f
    match p.alternative? i with
    | some a => if i < a ∧ a < p.size then p.modifyForward a f fuel else p
    | none => p

/-- Applies `f` at step `i` and along its alternatives while they lie inside the program. -/
def modifyChain (p : Program) (i : Nat) (f : Step → Step) : Nat → Program
  | 0 => p
  | fuel + 1 =>
    let p := p.modify i f
    match p.alternative? i with
    | some a => if a < p.size then p.modifyChain a f fuel else p
    | none => p

/-- The last of the alternatives that begin at step `i` and lie before step `limit`. -/
def chainEnd (p : Program) (limit i : Nat) : Nat → Nat
  | 0 => i
  | fuel + 1 =>
    match p.alternative? i with
    | some a => if a < limit then p.chainEnd limit a fuel else i
    | none => i

/-- Lets the item that starts at step `start` be skipped. -/
def makeOptional (p : Program) (limit start : Nat) : Program :=
  p.modify (p.chainEnd limit start p.size) fun s => { s with alternative := some p.size }

/-- Adds what a suffix of the item that starts at step `start` asks for. -/
def addSuffix (names : List String) (depth start : Nat) (p : Program) : Suffix → Program
  | .oneOrMore => p.push (.repetition depth start)
  | .zeroOrMore =>
    let p := p.push (.repetition depth start)
    p.makeOptional (p.size - 1) start
  | .zeroOrOne => p.makeOptional p.size start
  | .capture name => p.modifyForward start (·.addCapture (names.idxOf name)) p.size

/-- Adds what the suffixes of the item that starts at step `start` ask for, in order. -/
def addSuffixes (names : List String) (depth start : Nat) (p : Program)
    (suffixes : List Suffix) : Program :=
  suffixes.foldl (addSuffix names depth start) p

/-- Links the branches of a choice that start at the given steps. -/
def linkBranches (p : Program) : List Nat → Program
  | first :: second :: more =>
    let p := p.modify first fun s => { s with alternative := some second }
    -- The placeholder before the second branch, which leads past the choice.
    let p := p.modify (second - 1) fun s => { s with alternative := some p.size, deadEnd := true }
    p.linkBranches (second :: more)
  | _ => p

mutual
/-- Adds the steps of an item at a depth; `immediate` says that `.` stands before it. -/
def addItem (names : List String) (depth : Nat) (immediate : Bool) (p : Program) :
    Item → Program
  | .node offset test children absent closed suffixes =>
    let p := p.noteOrigin offset
    let start := p.size
    -- A step holds at most eight fields that must be absent; more are dropped.
    let p := p.push { Step.ofTest test depth immediate with absent := absent.take 8 }
    let (p, last) := addChildren names (depth + 1) p start children
    let p := if closed then p.modifyChain last ({ · with lastChild := true }) p.size else p
    p.addSuffixes names depth start suffixes
  | .leaf offset test suffixes =>
    let p := p.noteOrigin offset
    let start := p.size
    (p.push (.ofTest test depth immediate)).addSuffixes names depth start suffixes
  | .group offset items suffixes =>
    let p := p.noteOrigin offset
    let start := p.size
    (addSequence names depth immediate p items).addSuffixes names depth start suffixes
  | .choice offset branches suffixes =>
    let p := p.noteOrigin offset
    let start := p.size
    let (p, starts) := addBranches names depth immediate p branches
    (p.linkBranches starts).addSuffixes names depth start suffixes
  | .labelled offset field item =>
    let p := p.noteOrigin offset
    let start := p.size
    let p := addItem names depth immediate p item
    p.modifyForward start ({ · with field := some field }) p.size
  | .anchored item => addItem names depth true p item
  | .clause offset _ => p.noteOrigin offset

/-- Adds children, and answers the step at which the last of them starts. A clause starts at
the step before it. -/
def addChildren (names : List String) (depth : Nat) (p : Program) (last : Nat) :
    List Item → Program × Nat
  | [] => (p, last)
  | i :: is =>
    let start := p.size
    let p := addItem names depth false p i
    addChildren names depth p (if p.size = start then start - 1 else start) is

/-- Adds the items of a group; a `.` before the group counts for the first. -/
def addSequence (names : List String) (depth : Nat) (immediate : Bool) (p : Program) :
    List Item → Program
  | [] => p
  | i :: is => addSequence names depth false (addItem names depth immediate p i) is

/-- Adds the branches of a choice with placeholders between them, and answers the steps at
which they start. -/
def addBranches (names : List String) (depth : Nat) (immediate : Bool) (p : Program) :
    List Item → Program × List Nat
  | [] => (p, [])
  | [i] => (addItem names depth immediate p i, [p.size])
  | i :: is =>
    let start := p.size
    let p := (addItem names depth immediate p i).push (.placeholder depth)
    let (p, starts) := addBranches names depth immediate p is
    (p, start :: starts)
end

/-- The program of a pattern in a text whose captures are `names`. -/
def ofPattern (names : List String) (pattern : Pattern) : Program :=
  (addItem names 0 false empty pattern.item).push .complete

/-! ## Beginnings -/

/-- Whether step `i` stands in a match for the whole pattern: it is at the top, and no other
step up to the next dead end is. -/
def isRooted (p : Program) (i : Nat) : Bool :=
  match p.steps[i]? with
  | none => false
  | some s =>
    s.depth == some 0 &&
      !((p.steps.toList.drop (i + 1)).takeWhile (!·.deadEnd)).any (·.depth == some 0)

/-- A step that a match can begin with. -/
structure Start where
  step : Nat
  /-- Whether the node of the step stands for the whole match. -/
  rooted : Bool
  deriving DecidableEq, Repr

/-- Whether a match can begin below step `i`: it asks nothing of its node but to be the parent
of the next step's. -/
def canSkip (p : Program) (i : Nat) : Bool :=
  match p.steps[i]?, p.steps[i + 1]? with
  | some s, some child =>
    s.isWild && s.depth == some 0 && s.field.isNone &&
      !child.isWild && child.depth == some 1 && !child.immediate
  | _, _ => false

/-- The beginnings from step `i` on; `resume` is one that was put off. -/
def startsFrom (p : Program) (i : Nat) (resume : Option Nat) : Nat → List Start
  | 0 => []
  | fuel + 1 =>
    -- Below a skipped step its alternatives wait until those of its child are done.
    let skips := p.canSkip i
    let resume := if skips then p.alternative? i else resume
    let i := if skips then i + 1 else i
    let more := match p.alternative? i, resume with
      | some a, _ => p.startsFrom a resume fuel
      | none, some r => p.startsFrom r none fuel
      | none, none => []
    ⟨i, p.isRooted i⟩ :: more

/-- The steps that a match can begin with, in order. -/
def starts (p : Program) : List Start := p.startsFrom 0 none (2 * p.size + 2)

/-- Whether the node of step `i`, or one below it, is captured. -/
def holdsCapture (p : Program) (i : Nat) : Bool :=
  match p.steps[i]? with
  | some ⟨_, some depth, _, captures, _, _, _, _, _, _, _⟩ =>
    !captures.isEmpty ||
      ((p.steps.toList.drop (i + 1)).takeWhile fun s => s.depth.any (depth < ·)).any
        (!·.captures.isEmpty)
  | _ => false

/-- Whether step `i` is followed by a step below it. -/
def hasStepBelow (p : Program) (i : Nat) : Bool :=
  match p.steps[i]?.bind (·.depth), p.steps[i + 1]?.bind (·.depth) with
  | some depth, some next => depth < next
  | _, _ => false

end Program
end TreeQuery
