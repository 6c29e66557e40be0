/-
  TreeQuery.Tree.Node

  A node is a place in a tree: the subtree that stands there and the trail back to
  the root. Each step of the trail keeps the parent's label and the siblings before
  (nearest first) and after. Moves go to parents, siblings and children; since a
  trail holds the whole rest of the tree, a move is never out of step with another:
  `parent?_childAt` and its companions say that going down and up comes back.

  A node also keeps the source that its tree was parsed from, so that it has a text
  of its own, and it can be read against any other text.
-/

import TreeQuery.Tree.Basic

namespace TreeQuery

/-- One step up from a place in a tree. -/
structure Crumb where
  parent : Label
  /-- Siblings before the place, nearest first. -/
  before : List Tree
  /-- Siblings after the place, nearest first. -/
  after : List Tree
  deriving Repr, Inhabited

/-- A place in the tree of a source. -/
structure Node where
  source : Text
  tree : Tree
  /-- Steps up to the root, nearest first. -/
  trail : List Crumb
  deriving Repr, Inhabited

/-- The root of a parsed source. -/
def SyntaxTree.rootNode (t : SyntaxTree) : Node := ⟨t.source, t.root, []⟩

namespace Node

def label (n : Node) : Label := n.tree.label

def kind (n : Node) : String := n.label.kind

def start (n : Node) : Nat := n.label.start

def stop (n : Node) : Nat := n.label.stop

def isNamed (n : Node) : Bool := n.label.named

def isMissing (n : Node) : Bool := n.label.missing

def isError (n : Node) : Bool := n.label.isError

/-- Whether this node or one below it is an error or missing. -/
def isDamaged (n : Node) : Bool := n.label.damaged

/-- How far below the root the node stands. -/
def depth (n : Node) : Nat := n.trail.length

/-- Child indexes that lead from the root to the node. -/
def path (n : Node) : List Nat := (n.trail.map (·.before.length)).reverse

/-- Whether two nodes of one tree are the same place. -/
def isSame (m n : Node) : Bool := m.path == n.path

/-! ## Text and position -/

/-- What the node covers of `text`, or nothing when its bytes are no part of it. -/
def textIn (n : Node) (text : Text) : Text := text.slice n.start n.stop

/-- What the node covers of its own source. -/
def text (n : Node) : Text := n.textIn n.source

/-- Line and column of an offset of the source, both counted from one, columns in bytes. -/
def positionAt (n : Node) (offset : Nat) : Nat × Nat :=
  let (row, column) := (n.source.before offset).rowColumn
  (row + 1, column + 1)

def startPosition (n : Node) : Nat × Nat := n.positionAt n.start

def stopPosition (n : Node) : Nat × Nat := n.positionAt n.stop

/-! ## Moves -/

/-- The places of the trees `ts`, which stand after `before` under `parent`. -/
def siblingsFrom (source : Text) (trail : List Crumb) (parent : Label) (before : List Tree) :
    List Tree → List Node
  | [] => []
  | t :: ts =>
    ⟨source, t, ⟨parent, before, ts⟩ :: trail⟩ ::
      siblingsFrom source trail parent (t :: before) ts

def children (n : Node) : List Node :=
  siblingsFrom n.source n.trail n.label [] n.tree.children

def namedChildren (n : Node) : List Node := n.children.filter (·.isNamed)

def firstChild? (n : Node) : Option Node := n.children.head?

def child? (n : Node) (i : Nat) : Option Node := n.children[i]?

/-- The first child listed under a field. -/
def childByField? (n : Node) (field : String) : Option Node :=
  n.children.find? fun c => c.label.fieldListed && c.label.field == some field

def parent? (n : Node) : Option Node :=
  match n.trail with
  | [] => none
  | c :: up => some ⟨n.source, .node c.parent (c.before.reverse ++ n.tree :: c.after), up⟩

def nextSibling? (n : Node) : Option Node :=
  match n.trail with
  | ⟨p, before, t :: after⟩ :: up => some ⟨n.source, t, ⟨p, n.tree :: before, after⟩ :: up⟩
  | _ => none

def prevSibling? (n : Node) : Option Node :=
  match n.trail with
  | ⟨p, t :: before, after⟩ :: up => some ⟨n.source, t, ⟨p, before, n.tree :: after⟩ :: up⟩
  | _ => none

/-- Goes up a trail from a tree, nearest ancestor first. -/
def ancestorsFrom (source : Text) (tree : Tree) : List Crumb → List Node
  | [] => []
  | c :: up =>
    let parent := Tree.node c.parent (c.before.reverse ++ tree :: c.after)
    ⟨source, parent, up⟩ :: ancestorsFrom source parent up

/-- The nodes above, nearest first. -/
def ancestors (n : Node) : List Node := ancestorsFrom n.source n.tree n.trail

/-- The node that a path of child indexes leads to. -/
def descendant? (n : Node) : List Nat → Option Node
  | [] => some n
  | i :: path => (n.child? i).bind (descendant? · path)

/-! ## Pre-order -/

mutual
/-- The places in `tree`, which stands at the end of `trail`, in pre-order. -/
def preorderFrom (source : Text) (trail : List Crumb) : Tree → List Node
  | .node l cs =>
    ⟨source, .node l cs, trail⟩ :: preorderOfList source trail l [] cs

/-- The places in the trees `ts`, which stand after `before` under `parent`, in pre-order. -/
def preorderOfList (source : Text) (trail : List Crumb) (parent : Label) (before : List Tree) :
    List Tree → List Node
  | [] => []
  | t :: ts =>
    preorderFrom source (⟨parent, before, ts⟩ :: trail) t ++
      preorderOfList source trail parent (t :: before) ts
end

/-- The node and all below it, in pre-order. -/
def preorder (n : Node) : List Node := preorderFrom n.source n.trail n.tree

/-! ## Small facts -/

theorem getElem?_siblingsFrom (source : Text) (trail : List Crumb) (p : Label)
    (before ts : List Tree) (i : Nat) :
    (siblingsFrom source trail p before ts)[i]? =
      ts[i]?.map fun t =>
        ⟨source, t, ⟨p, (ts.take i).reverse ++ before, ts.drop (i + 1)⟩ :: trail⟩ := by
  induction ts generalizing before i with
  | nil => simp [siblingsFrom]
  | cons t ts ih =>
    cases i with
    | zero => simp [siblingsFrom]
    | succ i => simp [siblingsFrom, ih]

/-- Going to a child and up again comes back. -/
theorem parent?_of_child? {n c : Node} {i : Nat} (h : n.child? i = some c) :
    c.parent? = some n := by
  obtain ⟨source, ⟨l, cs⟩, trail⟩ := n
  simp only [child?, children, getElem?_siblingsFrom, Option.map_eq_some_iff] at h
  obtain ⟨t, ht, rfl⟩ := h
  simp only [label, Tree.label_node, Tree.children_node] at ht ⊢
  obtain ⟨hi, rfl⟩ := List.getElem?_eq_some_iff.1 ht
  simp only [parent?, List.append_nil, List.reverse_reverse, Option.some.injEq, mk.injEq,
    Tree.node.injEq, true_and, and_true]
  simp

end Node
end TreeQuery
