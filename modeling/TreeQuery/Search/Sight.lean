/-
  TreeQuery.Search.Sight

  What a search sees at one node: the node itself, how deep it stands below the node
  the search began at, its parent and field there, and the siblings still to come.
  At the beginning of the search there is no parent, no field and no sibling.

  A window limits a search to some bytes of the source.
-/

import TreeQuery.Pattern.Program
import TreeQuery.Tree.Node

namespace TreeQuery

/-- The bytes that a search is limited to; `none` for no end. -/
structure Window where
  start : Nat
  stop : Option Nat
  deriving DecidableEq, Repr

namespace Window

/-- All bytes. -/
def everything : Window := ⟨0, none⟩

/-- The window from `start` to `stop`, where zero stands for no end; `none` when it would end
before it starts. -/
def ofBounds? (start stop : Nat) : Option Window :=
  if stop = 0 then some ⟨start, none⟩
  else if start ≤ stop then some ⟨start, some stop⟩
  else none

/-- Whether an offset lies at or after the end. -/
def endsBy (w : Window) (offset : Nat) : Bool := w.stop.any (· ≤ offset)

/-- Whether a label covers bytes before the end and after the start. -/
def meetsAsParent (w : Window) (l : Label) : Bool := !(l.stop ≤ w.start) && !w.endsBy l.start

/-- Whether a node meets the window: its parent does, and the node neither ends before the
start (a node that covers something also not at it) nor starts at or after the end. -/
def meets (w : Window) (parent : Option Label) (l : Label) : Bool :=
  parent.all w.meetsAsParent &&
    !(l.stop < w.start || (l.start != l.stop && l.stop == w.start)) && !w.endsBy l.start

end Window

/-- What a search sees at one node. -/
structure Sight where
  node : Node
  /-- How far below the first node of the search. -/
  depth : Nat
  parent : Option Node
  field : Option String
  supertypes : List String
  /-- Labels of the siblings still to come. -/
  later : List Label

namespace Sight

/-- What is seen at `node`, which stands `depth` below the first node of the search. -/
def ofNode (node : Node) (depth : Nat) : Sight :=
  if depth = 0 then ⟨node, 0, none, none, [], []⟩
  else
    { node := node
      depth := depth
      parent := node.parent?
      field := node.label.field
      supertypes := node.label.supertypes
      later := match node.trail with
        | [] => []
        | c :: _ => c.after.map Tree.label }

def label (x : Sight) : Label := x.node.label

def hasLaterSibling (x : Sight) : Bool := !x.later.isEmpty

def hasLaterNamedSibling (x : Sight) : Bool := x.later.any (·.named)

/-- Whether a later sibling stands in the field. -/
def hasLaterInField (x : Sight) (field : String) : Bool := x.later.any (·.field == some field)

/-- Whether the kind of the node fits a test. -/
def fitsKind (x : Sight) (test : NodeTest) : Bool :=
  match test.symbol with
  | .wild =>
    if test.missing then x.label.missing
    else !x.label.isError && (x.label.named || !test.namedOnly)
  | .kind name named =>
    x.label.kind == name && x.label.named == named && (!test.missing || x.label.missing)

/-- Whether the node is all that a step asks for. -/
def fits (x : Sight) (s : Step) : Bool :=
  x.fitsKind s.test &&
    !(s.lastChild && x.hasLaterNamedSibling) &&
    s.test.supertype.all x.supertypes.contains &&
    s.field.all (some · == x.field) &&
    s.absent.all fun field => (x.node.childByField? field).isNone

end Sight
end TreeQuery
