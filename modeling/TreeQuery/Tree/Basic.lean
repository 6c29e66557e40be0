/-
  TreeQuery.Tree.Basic

  Syntax trees. A tree is a label with its subtrees in order; a label carries what a
  parser says of one node: its kind, the bytes it covers, whether it is named, was
  inserted by error recovery or holds an error, and the field it stands in.

  A tree can be listed by rows in pre-order, each with its number of children;
  `Tree.ofRows?` reads such a listing and `Tree.rows` writes it. Reading undoes
  writing (`ofRows?_rows`).
-/

import TreeQuery.Language.Basic

namespace TreeQuery

/-- What a parser says of one node. -/
structure Label where
  kind : String
  /-- Offset of the first byte covered. -/
  start : Nat
  /-- Offset after the last byte covered. -/
  stop : Nat
  named : Bool
  /-- Inserted by error recovery, covering nothing. -/
  missing : Bool
  /-- This node or one below it is an error or missing. -/
  damaged : Bool
  /-- The label under which the node stands in its parent. -/
  field : Option String
  /-- Whether looking up a child by field finds this node. -/
  fieldListed : Bool
  /-- The supertypes that the node is of at its place. -/
  supertypes : List String
  deriving DecidableEq, Repr, Inhabited

/-- The kind of nodes that cover text no rule accounts for. -/
def errorKind : String := "ERROR"

/-- Whether a node covers text that no rule accounts for. -/
def Label.isError (l : Label) : Bool := l.kind == errorKind

/-- A label with its subtrees in order. -/
inductive Tree where
  | node (label : Label) (children : List Tree)
  deriving Repr, Inhabited

namespace Tree

def label : Tree → Label
  | node l _ => l

def children : Tree → List Tree
  | node _ cs => cs

@[simp] theorem label_node (l : Label) (cs : List Tree) : (node l cs).label = l := rfl

@[simp] theorem children_node (l : Label) (cs : List Tree) : (node l cs).children = cs := rfl

/-! ## Pre-order listings -/

mutual
/-- The labels of a tree in pre-order, each with its number of children. -/
def rows : Tree → List (Label × Nat)
  | node l cs => (l, cs.length) :: rowsOfList cs

/-- The rows of several trees, one tree after the other. -/
def rowsOfList : List Tree → List (Label × Nat)
  | [] => []
  | t :: ts => rows t ++ rowsOfList ts
end

/-- Adds a row in front of trees already read: the row takes its children from them. -/
def prependRow (row : Label × Nat) (trees : List Tree) : List Tree :=
  .node row.1 (trees.take row.2) :: trees.drop row.2

/-- Reads a pre-order listing; `none` when it lists no tree. -/
def ofRows? (listing : List (Label × Nat)) : Option Tree :=
  (listing.foldr prependRow []).head?

mutual
theorem foldr_rows (t : Tree) (rest : List Tree) :
    t.rows.foldr prependRow rest = t :: rest := by
  match t with
  | node l cs => simp [rows, foldr_rowsOfList cs rest, prependRow]

theorem foldr_rowsOfList (ts : List Tree) (rest : List Tree) :
    (rowsOfList ts).foldr prependRow rest = ts ++ rest := by
  match ts with
  | [] => rfl
  | t :: ts => simp [rowsOfList, foldr_rowsOfList ts rest, foldr_rows t (ts ++ rest)]
end

/-- Reading a listing undoes writing it. -/
theorem ofRows?_rows (t : Tree) : ofRows? t.rows = some t := by
  simp [ofRows?, foldr_rows t []]

end Tree

/-- A parsed source. -/
structure SyntaxTree where
  language : Language
  source : Text
  root : Tree
  deriving Repr

/-- Whether some node of the tree is an error or missing. -/
def SyntaxTree.hasErrors (t : SyntaxTree) : Bool := t.root.label.damaged

end TreeQuery
