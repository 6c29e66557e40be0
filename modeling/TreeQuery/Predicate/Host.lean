/-
  TreeQuery.Predicate.Host

  Predicates that callers describe by data: tests of the captured nodes, and
  predicates with a signature and one of a few checks of their own.
-/

import TreeQuery.Predicate.Structural

namespace TreeQuery

/-- A property of a single node. -/
inductive NodeProperty where
  | named
  /-- It has no children. -/
  | leaf
  /-- Neither it nor a node below it is an error or missing. -/
  | clean
  /-- It starts and ends in one line. -/
  | singleLine
  | parentIs (kind : String)
  | prevIs (kind : String)
  | nextIs (kind : String)
  | firstIs (kind : String)
  /-- Some node above it is of the kind. -/
  | within (kind : String)
  /-- It has a child listed under the field. -/
  | hasField (field : String)
  deriving DecidableEq, Repr

def NodeProperty.holds (p : NodeProperty) (n : Node) : Bool :=
  match p with
  | named => n.isNamed
  | leaf => n.children.isEmpty
  | clean => !n.isDamaged
  | singleLine => n.startPosition.1 == n.stopPosition.1
  | parentIs kind => n.parent?.any (·.kind == kind)
  | prevIs kind => n.prevSibling?.any (·.kind == kind)
  | nextIs kind => n.nextSibling?.any (·.kind == kind)
  | firstIs kind => n.firstChild?.any (·.kind == kind)
  | within kind => n.ancestors.any (·.kind == kind)
  | hasField field => (n.childByField? field).isSome

/-- A test of all captured nodes. -/
inductive NodesTest where
  | count (n : Nat)
  | each (p : NodeProperty)
  deriving DecidableEq, Repr

def NodesTest.holds (t : NodesTest) (nodes : List Node) : Bool :=
  match t with
  | count n => nodes.length == n
  | each p => nodes.all p.holds

/-- A check of a caller's own. -/
inductive HostCheck where
  | always (answer : Bool)
  /-- Every capture argument is bound to a node. -/
  | bound
  /-- The text of some node of some capture argument contains every literal argument. -/
  | contains
  /-- The match is of the first pattern. -/
  | firstPattern
  /-- Some captured node covers the whole text. -/
  | wholeSource
  deriving DecidableEq, Repr

/-- All endings of a text, the whole text first. -/
def Text.endings : Text → List Text
  | [] => [[]]
  | c :: rest => (c :: rest) :: endings rest

/-- Whether a text has another as a part. -/
def Text.hasPart (t part : Text) : Bool := (Text.endings t).any part.isPrefixOf

def HostCheck.run (check : HostCheck) (arguments : List Argument) : Check := fun c =>
  let captures := arguments.filterMap Argument.capture?
  let literals := arguments.filterMap Argument.literal?
  match check with
  | always answer => answer
  | bound => captures.all fun ref => !(c.nodes ref).isEmpty
  | contains => captures.any fun ref => (c.texts ref).any fun t => literals.all (Text.hasPart t)
  | firstPattern => c.found.pattern == 0
  | wholeSource => c.found.captures.any fun m => m.node.textIn c.source == c.source

/-- A predicate with a signature and a check; with a reason, it refuses every clause. -/
def Predicate.host (signature : Signature) (refusal : Option String) (check : HostCheck) :
    Predicate where
  signature := signature
  bind arguments :=
    match refusal with
    | some reason => .error (.refused reason)
    | none => .ok (check.run arguments)

end TreeQuery
