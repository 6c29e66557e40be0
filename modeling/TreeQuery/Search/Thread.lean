/-
  TreeQuery.Search.Thread

  A search keeps a list of threads. A thread is a match that has begun: the program
  it follows, the step it waits at, the depth it began at, and what it has captured
  so far. The list is kept in the order of beginning depth and pattern.

  * `Thread.advance` says what becomes of a thread at a node.
  * `Thread.prune` compares the threads of one pattern and depth: of two that wait
    at the same step, one whose captures the other has too is dropped; if they wait
    at different steps it is put off, since the other may still become a longer match.
-/

import TreeQuery.Search.Sight

namespace TreeQuery

/-- A match as the search finds it: the pattern and the captured nodes in capture order. -/
structure RawMatch where
  pattern : Nat
  captures : List (Nat × Node)
  deriving Repr, Inhabited

/-- A match that has begun. -/
structure Thread where
  pattern : Nat
  /-- The step that it waits at. -/
  step : Nat
  /-- The depth at which it began. -/
  depth : Nat
  captures : List (Nat × Node)
  /-- The next node must match, or the thread ends. -/
  urgent : Bool
  /-- Another thread of the same beginning may become a longer match. -/
  putOff : Bool
  /-- The parent of the first matching node is still to be captured. -/
  needsParent : Bool
  deriving Repr, Inhabited

namespace Thread

/-! ## Comparing captures -/

/-- The order of captured nodes: by start, and of two that start together the longer first. -/
def compareNodes (m n : Node) : Ordering :=
  if m.isSame n then .eq
  else (compare m.start n.start).then (compare n.stop m.stop)

/-- Goes through two capture lists in step and says whether the left has all of the right and
the right all of the left. -/
def compareCaptures : List (Nat × Node) → List (Nat × Node) → Bool × Bool
  | [], [] => (true, true)
  | [], _ :: _ => (false, true)
  | _ :: _, [] => (true, false)
  | (i, m) :: left, (j, n) :: right =>
    if i = j ∧ m.isSame n then compareCaptures left right
    else
      match compareNodes m n with
      -- The left has a capture that the right passes over, so the right has not all of it.
      | .lt => ((compareCaptures left ((j, n) :: right)).1, false)
      | .gt => (false, (compareCaptures ((i, m) :: left) right).2)
      | .eq => (false, false)
termination_by left right => left.length + right.length

/-- Whether two threads began with the same pattern at the same depth. -/
def isRival (s t : Thread) : Bool := s.depth == t.depth && s.pattern == t.pattern

/-- Compares a thread with those after it, as far as they are its rivals. Answers the thread,
unless it is dropped, and the others that remain. -/
def meetRivals (t : Thread) : List Thread → Option Thread × List Thread
  | [] => (some t, [])
  | o :: others =>
    if !t.isRival o then (some t, o :: others)
    else
      let (hasOther, otherHas) := compareCaptures t.captures o.captures
      if hasOther && t.step == o.step then meetRivals t others
      else
        -- Waiting elsewhere, a thread with fewer captures is only put off.
        let o := { o with putOff := o.putOff || hasOther }
        if otherHas && t.step == o.step then (none, o :: others)
        else
          let (t, others) := meetRivals { t with putOff := t.putOff || otherHas } others
          (t, o :: others)

theorem length_meetRivals (t : Thread) (others : List Thread) :
    (meetRivals t others).2.length ≤ others.length := by
  fun_induction meetRivals t others <;> simp_all
  -- What is left is the case that drops a rival, which makes the list shorter.
  omega

/-! ## Waiting -/

/-- The step that a thread waits at. -/
def waitsAt (programs : Array Program) (t : Thread) : Option Step :=
  programs[t.pattern]?.bind (·.steps[t.step]?)

/-- Whether the thread has reached the end of its pattern. -/
def isComplete (programs : Array Program) (t : Thread) : Bool :=
  (t.waitsAt programs).all (·.isComplete)

/-- The depth of the node that the thread waits for. -/
def waitsForDepth (programs : Array Program) (t : Thread) : Option Nat :=
  (t.waitsAt programs).bind fun s => s.depth.map (t.depth + ·)

def toMatch (t : Thread) : RawMatch := ⟨t.pattern, t.captures⟩

/-- Drops and puts off threads by comparison with their rivals, and takes out those that are
complete and not put off. Answers the threads that go on and the matches found. -/
def prune (programs : Array Program) : List Thread → List Thread × List RawMatch
  | [] => ([], [])
  | t :: others =>
    let met := meetRivals t others
    have : met.2.length < (t :: others).length :=
      Nat.lt_succ_of_le (length_meetRivals t others)
    let (threads, found) := prune programs met.2
    match met.1 with
    | none => (threads, found)
    | some t =>
      if t.isComplete programs && !t.putOff then (threads, t.toMatch :: found)
      else (t :: threads, found)
termination_by threads => threads.length
decreasing_by exact this

/-! ## One node -/

/-- Follows the alternatives of the steps that the threads in `todo` wait at. Each step is
waited at once; a second thread there would have the same captures. -/
def branch (p : Program) (seen : List Nat) : List Thread → Nat → List Thread
  | [], _ => []
  | _, 0 => []
  | t :: todo, fuel + 1 =>
    if seen.contains t.step then branch p seen todo fuel
    else
      let seen := t.step :: seen
      match p.steps[t.step]? with
      | none => t :: branch p seen todo fuel
      | some s =>
        match s.alternative with
        | none => t :: branch p seen todo fuel
        | some a =>
          if s.deadEnd then branch p seen ({ t with step := a } :: todo) fuel
          else
            let copy := { t with step := a, urgent := t.urgent || s.alternativeImmediate }
            if s.passThrough then
              branch p seen ({ t with step := t.step + 1 } :: copy :: todo) fuel
            else t :: branch p seen (copy :: todo) fuel

/-- The captures that a skipped first step takes of the parent: those of the nearest step
before `i` at the top that tests a node. -/
def parentCaptures (p : Program) : Nat → List Nat
  | 0 => []
  | i + 1 =>
    match p.steps[i]? with
    | some s =>
      if s.deadEnd || s.passThrough || s.depth != some 0 then parentCaptures p i else s.captures
    | none => []

/-- What becomes of a thread at a node: the threads that take its place. -/
def advance (programs : Array Program) (x : Sight) (t : Thread) : List Thread :=
  let t := { t with putOff := false }
  match programs[t.pattern]? with
  | none => [t]
  | some p =>
    match p.steps[t.step]? with
    | none => [t]
    | some s =>
      if s.depth.map (t.depth + ·) != some x.depth then [t]
      else
        let inField := s.field.all (some · == x.field)
        -- The thread can wait for a later sibling instead of this node.
        let laterCanMatch :=
          x.hasLaterSibling && !(s.immediate && x.label.named) && !t.urgent &&
            !(inField && s.field.any (!x.hasLaterInField ·))
        if !x.fits s then if laterCanMatch then [t] else []
        else
          -- It also waits when the node fits, if the choice of the node would show.
          let behind :=
            if laterCanMatch && (p.holdsCapture t.step || p.hasStepBelow t.step) then [t] else []
          match t.needsParent, x.parent with
          | true, none => behind
          | needsParent, parent =>
            let ofParent := if needsParent then
                parent.toList.flatMap fun n => (parentCaptures p t.step).map (·, n)
              else []
            let onward := { t with
              step := t.step + 1
              captures := t.captures ++ ofParent ++ s.captures.map (·, x.node)
              urgent := s.isWild && !s.test.namedOnly &&
                p.steps[t.step + 1]?.any (·.immediate)
              needsParent := false }
            -- Every step is waited at once and puts at most two threads up, so the fuel suffices.
            branch p [] [onward] (2 * p.size + 4) ++ behind

end Thread
end TreeQuery
