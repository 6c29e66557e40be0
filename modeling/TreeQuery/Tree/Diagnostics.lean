/-
  TreeQuery.Tree.Diagnostics

  The faults of a parsed source: nodes of the error kind and nodes that error
  recovery inserted. `SyntaxTree.faults` lists them in pre-order and does not look
  below a node that is not marked as damaged; `Tree.Marked` says when those marks
  can be trusted.
-/

import TreeQuery.Tree.Node

namespace TreeQuery

/-- Whether a node is itself a fault. -/
def Label.isFault (l : Label) : Bool := l.isError || l.missing

namespace Tree

mutual
/-- Whether some node of the tree is a fault. -/
def hasFault : Tree → Bool
  | .node l cs => l.isFault || hasFaultInList cs

/-- Whether some node of some of the trees is a fault. -/
def hasFaultInList : List Tree → Bool
  | [] => false
  | t :: ts => hasFault t || hasFaultInList ts
end

mutual
/-- Every node is marked as damaged exactly when there is a fault in its subtree. -/
def Marked : Tree → Prop
  | .node l cs => l.damaged = (l.isFault || hasFaultInList cs) ∧ MarkedList cs

/-- Every tree of the list is marked rightly. -/
def MarkedList : List Tree → Prop
  | [] => True
  | t :: ts => Marked t ∧ MarkedList ts
end

end Tree

namespace Node

mutual
/-- The faults in `tree`, in pre-order, without a look below undamaged nodes. -/
def faultsFrom (source : Text) (trail : List Crumb) : Tree → List Node
  | .node l cs =>
    (if l.isFault then [⟨source, .node l cs, trail⟩] else []) ++
      (if l.damaged then faultsOfList source trail l [] cs else [])

/-- The faults in the trees `ts`, which stand after `before` under `parent`. -/
def faultsOfList (source : Text) (trail : List Crumb) (parent : Label) (before : List Tree) :
    List Tree → List Node
  | [] => []
  | t :: ts =>
    faultsFrom source (⟨parent, before, ts⟩ :: trail) t ++
      faultsOfList source trail parent (t :: before) ts
end

/-- The faults at or below a node, in pre-order. -/
def faults (n : Node) : List Node := faultsFrom n.source n.trail n.tree

end Node

/-! ## Reports -/

/-- What is reported of one fault. -/
structure SyntaxFault where
  start : Nat
  stop : Nat
  line : Nat
  column : Nat
  /-- The text concerned, shortened when it is long. -/
  context : Text
  message : String
  deriving DecidableEq, Repr

/-- A text of over fifty bytes is shown by its first 47 characters and three dots. -/
def snippet (t : Text) : Text :=
  if t.size > 50 then t.take 47 ++ ['.', '.', '.'] else t

/-- The report of a faulty node. -/
def SyntaxFault.ofNode (n : Node) : SyntaxFault where
  start := n.start
  stop := n.stop
  line := n.startPosition.1
  column := n.startPosition.2
  context := ((n.source.slice? n.start n.stop).map snippet).getD []
  message := if n.isMissing then "missing " ++ n.kind else "syntax error"

/-- The report on one line. -/
def SyntaxFault.display (f : SyntaxFault) : String :=
  toString f.line ++ ":" ++ toString f.column ++ ": " ++ f.message ++ " near '" ++
    String.ofList f.context ++ "'"

/-- The reports of all faults, in pre-order. -/
def SyntaxTree.faults (t : SyntaxTree) : List SyntaxFault :=
  t.rootNode.faults.map SyntaxFault.ofNode

end TreeQuery
