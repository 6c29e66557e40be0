/-
  TreeQuery.Match.Basic

  Matches as callers see them. A match names its pattern and holds the captured nodes
  ordered by start; nodes that start together stay in the order in which the search
  captured them. The span of a match is that of its outermost captured node.

  Matches are put in order by span: those without captures first, then by start,
  and of two that start together the longer first.
-/

import TreeQuery.Search.Thread
import TreeQuery.Text.Record

namespace TreeQuery

/-- A capture name without the `@` before it, if there is one. -/
def withoutSigil (name : String) : String :=
  match name.toList with
  | '@' :: rest => String.ofList rest
  | _ => name

/-- A captured node, with the name of the capture and its number in the query. -/
structure MatchCapture where
  index : Nat
  name : String
  node : Node
  deriving Repr, Inhabited

/-- A match of one pattern. -/
structure Match where
  pattern : Nat
  captures : List MatchCapture
  deriving Repr, Inhabited

/-- A half-open range of bytes. -/
structure Span where
  start : Nat
  stop : Nat
  deriving DecidableEq, Repr, Inhabited

/-- The bytes that a node covers. -/
def Node.span (n : Node) : Span := ⟨n.start, n.stop⟩

/-- Whether a span comes no later than another: it starts earlier, or together and is no
shorter. -/
def Span.isBefore (a b : Span) : Bool :=
  a.start < b.start || (a.start == b.start && b.stop ≤ a.stop)

namespace Match

/-- A match of captures as the search lists them. -/
def ofCaptures (pattern : Nat) (captures : List MatchCapture) : Match :=
  ⟨pattern, captures.mergeSort fun a b => a.node.start ≤ b.node.start⟩

/-- A match found by the search, with the names of the query's captures. -/
def ofRaw (names : List String) (raw : RawMatch) : Match :=
  ofCaptures raw.pattern <|
    raw.captures.filterMap fun (index, node) => (names[index]?).map (⟨index, ·, node⟩)

/-- The nodes captured under a name; an `@` before the name does not count. -/
def capturesNamed (m : Match) (name : String) : List Node :=
  (m.captures.filter (·.name == withoutSigil name)).map (·.node)

/-- The first node captured under a name; an `@` before the name does not count. -/
def capture? (m : Match) (name : String) : Option Node :=
  (m.captures.find? (·.name == withoutSigil name)).map (·.node)

def hasCapture (m : Match) (name : String) : Bool := (m.capture? name).isSome

/-- The nodes captured under the number of a capture. -/
def nodesAt (m : Match) (index : Nat) : List Node :=
  (m.captures.filter (·.index == index)).map (·.node)

/-- The first span of a list that comes no later than any other. -/
def outermost? : List Span → Option Span
  | [] => none
  | s :: spans => some (spans.foldl (fun best t => if best.isBefore t then best else t) s)

/-- The span of the outermost captured node. -/
def span? (m : Match) : Option Span := outermost? (m.captures.map (·.node.span))

/-- Whether a match may stand before another: those without captures come first, the others in
the order of their spans. -/
def mayPrecede (a b : Match) : Bool :=
  match a.span?, b.span? with
  | none, _ => true
  | some _, none => false
  | some s, some t => s.isBefore t

/-- Matches in order; those of equal place stay as they are. -/
def inOrder (ms : List Match) : List Match := ms.mergeSort mayPrecede

end Match
end TreeQuery
