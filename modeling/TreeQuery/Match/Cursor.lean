/-
  TreeQuery.Match.Cursor

  Running queries. An evaluator holds the text against which clauses are checked; it
  accepts a match when every clause of its pattern holds. A cursor runs a query below
  a node, keeps the matches in order, and hands out those that are accepted one by
  one.

  * `Cursor.execute` begins a run and forgets the run before.
  * `Cursor.next` hands out the next match, if there is one.
  * `Cursor.rest` hands out all that remain.
-/

import TreeQuery.Query.Basic

namespace TreeQuery

/-- The text against which clauses are checked. -/
structure Evaluator where
  source : Text
  deriving DecidableEq, Repr

namespace Evaluator

/-- Whether a clause holds for a match. -/
def verdict (e : Evaluator) (i : Invocation) (m : Match) : Bool := i.check ⟨m, e.source⟩

/-- Whether all clauses of the match's pattern hold. -/
def accepts (e : Evaluator) (q : Query) (m : Match) : Bool :=
  match q.pattern? m.pattern with
  | none => true
  | some p => p.predicates.all (e.verdict · m)

end Evaluator

/-- The stages of a cursor. -/
inductive CursorState where
  | idle
  | executing
  | exhausted
  deriving DecidableEq, Repr

/-- The name of a stage in records. -/
def CursorState.title : CursorState → String
  | idle => "Idle"
  | executing => "Executing"
  | exhausted => "Exhausted"

/-- A cursor over the matches of a query. -/
structure Cursor where
  state : CursorState
  /-- The range that was asked for last. -/
  range : Option Span
  /-- The window that searches use; a range that ends before it starts does not change it. -/
  window : Window
  query : Option Query
  evaluator : Option Evaluator
  /-- Matches that have not been looked at. -/
  pending : List Match

namespace Cursor

def new : Cursor := ⟨.idle, none, .everything, none, none, []⟩

/-- Limits later runs to a range of bytes. -/
def setRange (c : Cursor) (range : Span) : Cursor := { c with range := some range }

/-- The window after a range has been asked for. -/
def applyRange (window : Window) : Option Span → Window
  | none => window
  | some range => (Window.ofBounds? range.start range.stop).getD window

/-- The matches of a run: the raw matches under the names of the query, in order. -/
def candidates (q : Query) (raw : List RawMatch) : List Match :=
  Match.inOrder (raw.map (Match.ofRaw q.captures))

/-- Begins a run on raw matches that a search found. -/
def begin (c : Cursor) (q : Query) (evaluator : Option Evaluator) (raw : List RawMatch) : Cursor :=
  { c with
    state := .executing
    query := some q
    evaluator := evaluator
    pending := candidates q raw }

/-- Begins a run of a query below a node. -/
def execute (c : Cursor) (q : Query) (n : Node) (evaluator : Option Evaluator) : Cursor :=
  let window := applyRange c.window c.range
  { c with window := window }.begin q evaluator (q.search window n)

/-- Whether a match is handed out. -/
def accepts (c : Cursor) (m : Match) : Bool :=
  match c.query, c.evaluator with
  | some q, some e => e.accepts q m
  | _, _ => true

/-- Hands out the next accepted match; the cursor is exhausted when there is none. -/
def next (c : Cursor) : Option Match × Cursor :=
  if c.state ≠ .executing then (none, c)
  else
    match c.pending.dropWhile (!c.accepts ·) with
    | [] => (none, { c with state := .exhausted, pending := [] })
    | m :: pending => (some m, { c with pending := pending })

/-- Hands out up to `n` matches; it stops when there is none left. -/
def take (c : Cursor) : Nat → List Match × Cursor
  | 0 => ([], c)
  | n + 1 =>
    match c.next with
    | (none, c) => ([], c)
    | (some m, c) =>
      let (ms, c) := c.take n
      (m :: ms, c)

/-- Hands out all matches that remain. -/
def rest (c : Cursor) : List Match × Cursor := c.take (c.pending.length + 1)

/-- The cursor as a record. -/
def describe (c : Cursor) : String :=
  Record.fields "QueryCursor"
    [("state", c.state.title),
      ("byte_range", Record.option (c.range.map fun r => Record.range r.start r.stop)),
      ("pending", toString c.pending.length)] true

end Cursor

/-- The matches of a query below a node that an evaluator accepts. -/
def Query.matches (q : Query) (n : Node) (evaluator : Option Evaluator) : List Match :=
  ((Cursor.new.execute q n evaluator).rest).1

end TreeQuery
