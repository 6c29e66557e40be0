/-
  TreeQuery.Search.Run

  The search itself: a walk over a tree in pre-order that starts threads, advances
  them at every node, and lets go of those that can no longer match when it leaves
  one. It is a function of the programs, the window and the node it begins at.

  * `Search.enter` is what happens at a node before its children are visited.
  * `Search.leave` is what happens after them.
  * `Search.run` is the whole walk; its matches come in the order they are found.
-/

import TreeQuery.Search.Thread

namespace TreeQuery

/-- What a search looks for, prepared for the walk. -/
structure Search where
  programs : Array Program
  /-- Beginnings that accept every kind, with their patterns, in the order of the text. -/
  wildStarts : List (Nat × Program.Start)
  /-- All other beginnings, by pattern, the last of a pattern first. -/
  kindStarts : List (Nat × Program.Start)
  window : Window

namespace Search

/-- What the walk has so far. -/
structure Progress where
  threads : List Thread
  /-- Matches, last found first. -/
  found : List RawMatch

def stepAt? (programs : Array Program) (pattern step : Nat) : Option Step :=
  programs[pattern]?.bind (·.steps[step]?)

/-- Prepares a search for programs in a window. -/
def ofPrograms (programs : Array Program) (window : Window) : Search :=
  let isWild := fun (start : Nat × Program.Start) =>
    (stepAt? programs start.1 start.2.step).any (·.isWild)
  let starts := programs.toList.zipIdx.map fun (p, i) => p.starts.map (i, ·)
  { programs := programs
    wildStarts := starts.flatMap (·.filter isWild)
    kindStarts := starts.flatMap fun ofPattern => (ofPattern.filter (!isWild ·)).reverse
    window := window }

/-! ## Beginning a match -/

/-- Puts a thread in its place in the list, which is given from its end; `none` when the search
for the place meets a thread that waits at the same step. -/
def insertBack (t : Thread) : List Thread → Option (List Thread)
  | [] => some [t]
  | o :: before =>
    if o.depth < t.depth || (o.depth == t.depth && o.pattern < t.pattern) then
      some (t :: o :: before)
    else if t.isRival o && t.step == o.step then none
    else (insertBack t before).map (o :: ·)

/-- Puts a thread in its place in the list, unless it is there already. -/
def insert (threads : List Thread) (t : Thread) : List Thread :=
  ((insertBack t threads.reverse).map List.reverse).getD threads

/-- Begins a match of pattern `i` at `start` if the node is where such a match can begin. A
pattern of no test is complete at once and belongs to no depth of the walk. -/
def begin (s : Search) (x : Sight) (threads : List Thread) (i : Nat) (start : Program.Start) :
    List Thread :=
  match stepAt? s.programs i start.step with
  | none => threads
  | some step =>
    let parent := x.parent.map (·.label)
    -- A step that does not stand for the whole match only needs a parent in the window.
    let inWindow :=
      if start.rooted then s.window.meets parent x.label
      else parent.all fun p => s.window.meetsAsParent p && !p.isError
    let inField := step.field.all (some · == x.field)
    if !(inWindow && inField) then threads
    else
      let t : Thread :=
        { pattern := i, step := start.step, depth := 0, captures := [], urgent := true,
          putOff := false, needsParent := step.depth == some 1 }
      match step.depth with
      -- No node is tested: the thread is complete, and ends when the walk leaves the node.
      | none => threads ++ [{ t with depth := x.depth + 1 }]
      | some d => if d ≤ x.depth then insert threads { t with depth := x.depth - d } else threads

/-- Begins all matches that can begin at the node. -/
def beginAll (s : Search) (x : Sight) (threads : List Thread) : List Thread :=
  let threads :=
    if x.label.isError then threads
    else s.wildStarts.foldl (fun threads (i, start) =>
      let needsSupertype :=
        (stepAt? s.programs i start.step).any (·.test.supertype.isSome)
      if needsSupertype && x.supertypes.isEmpty then threads
      else s.begin x threads i start) threads
  s.kindStarts.foldl (fun threads (i, start) =>
    let sameKind := (stepAt? s.programs i start.step).any fun step =>
      step.test.symbol == .kind x.label.kind x.label.named
    if sameKind then s.begin x threads i start else threads) threads

/-! ## One node -/

/-- Visits a node: begins matches, advances all threads, compares them. -/
def enter (s : Search) (x : Sight) (progress : Progress) : Progress :=
  let threads := (s.beginAll x progress.threads).flatMap (Thread.advance s.programs x)
  let (threads, found) := Thread.prune s.programs threads
  ⟨threads, found.reverse ++ progress.found⟩

/-- Whether the children of a node are visited: it meets the window, or a thread waits for a
node below it. -/
def descends (s : Search) (x : Sight) (threads : List Thread) : Bool :=
  s.window.meets (x.parent.map (·.label)) x.label ||
    threads.any fun t => (t.waitsForDepth s.programs).any (x.depth < ·)

/-- Leaves a node: matches that were put off below it are found, and threads that wait for a
node below it end. -/
def leave (s : Search) (depth : Nat) (progress : Progress) : Progress :=
  let isOver := fun (t : Thread) =>
    t.isComplete s.programs && (depth < t.depth || depth == 0)
  let isLost := fun (t : Thread) => (t.waitsForDepth s.programs).any (depth < ·)
  ⟨progress.threads.filter fun t => !isOver t && !isLost t,
   ((progress.threads.filter isOver).map Thread.toMatch).reverse ++ progress.found⟩

/-! ## The walk -/

mutual
/-- Walks over the tree that stands at the end of `trail`, `depth` below the first node. -/
def walk (s : Search) (source : Text) (trail : List Crumb) (depth : Nat)
    (progress : Progress) : Tree → Progress
  | .node l cs =>
    let x := Sight.ofNode ⟨source, .node l cs, trail⟩ depth
    let entered := s.enter x progress
    let below :=
      if s.descends x entered.threads then s.walkList source trail depth l [] entered cs
      else entered
    s.leave depth below

/-- Walks over the trees that stand after `before` under `parent`, which is `depth` below the
first node. -/
def walkList (s : Search) (source : Text) (trail : List Crumb) (depth : Nat) (parent : Label)
    (before : List Tree) (progress : Progress) : List Tree → Progress
  | [] => progress
  | t :: ts =>
    let progress := s.walk source (⟨parent, before, ts⟩ :: trail) (depth + 1) progress t
    s.walkList source trail depth parent (t :: before) progress ts
end

/-- The matches at and below a node, in the order in which they are found. -/
def run (s : Search) (n : Node) : List RawMatch :=
  (s.walk n.source n.trail 0 ⟨[], []⟩ n.tree).found.reverse

end Search
end TreeQuery
