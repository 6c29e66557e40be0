/-
  TreeQuery.Pattern.Item

  Patterns as trees. A pattern is an item: a node with child items, a bare
  wildcard or token, a group, a choice, an item under a field label, or a predicate
  clause that stands among them. `+`, `*`, `?` and captures follow an item as
  suffixes.

  `Item.clauses` lists the clauses of a pattern in the order of the text, and
  `Item.quantity` says how many nodes a capture binds.
-/

import TreeQuery.Text.Basic
import TreeQuery.Pattern.Quantity

namespace TreeQuery

/-- Which kinds of node a test accepts. -/
inductive Symbol where
  /-- Every kind. -/
  | wild
  /-- One kind, of named nodes or of tokens. -/
  | kind (name : String) (named : Bool)
  deriving DecidableEq, Repr, Inhabited

/-- What an item asks of a single node. -/
structure NodeTest where
  symbol : Symbol
  /-- For a wildcard: whether tokens are refused. -/
  namedOnly : Bool
  /-- Whether only nodes inserted by error recovery are accepted. -/
  missing : Bool
  /-- A supertype that the node must be of. -/
  supertype : Option String
  deriving DecidableEq, Repr, Inhabited

/-- The bare wildcard `_`. -/
def NodeTest.anything : NodeTest := ⟨.wild, false, false, none⟩

/-- A token with the given text. -/
def NodeTest.token (text : String) : NodeTest := ⟨.kind text false, false, false, none⟩

/-- An argument of a predicate clause. -/
inductive ClauseArgument where
  | capture (name : String)
  | literal (text : Text)
  deriving DecidableEq, Repr

/-- A predicate clause as it is written: `(`, an opening `#` or `.`, a name, arguments, `)`. -/
structure Clause where
  /-- Offset of the `#` or `.` that opens the clause. -/
  opener : Nat
  name : String
  arguments : List ClauseArgument
  deriving DecidableEq, Repr

/-- What can follow an item. -/
inductive Suffix where
  | oneOrMore
  | zeroOrMore
  | zeroOrOne
  | capture (name : String)
  deriving DecidableEq, Repr

/-- An item of a pattern; the numbers are offsets at which items start. -/
inductive Item where
  /-- A node, its children, labels that must be absent, and whether `.` stands before `)`. -/
  | node (offset : Nat) (test : NodeTest) (children : List Item) (absent : List String)
      (closed : Bool) (suffixes : List Suffix)
  /-- A single test without parentheses. -/
  | leaf (offset : Nat) (test : NodeTest) (suffixes : List Suffix)
  | group (offset : Nat) (items : List Item) (suffixes : List Suffix)
  | choice (offset : Nat) (branches : List Item) (suffixes : List Suffix)
  | labelled (offset : Nat) (field : String) (item : Item)
  /-- An item after `.`: it must come right after the one before. -/
  | anchored (item : Item)
  | clause (offset : Nat) (clause : Clause)
  deriving Repr, Inhabited

namespace Suffix

/-- How often the item before the suffix may match. -/
def quantity : Suffix → Quantity
  | oneOrMore => .oneOrMore
  | zeroOrMore => .zeroOrMore
  | zeroOrOne => .zeroOrOne
  | capture _ => .one

/-- How often an item with these suffixes may match. -/
def total (suffixes : List Suffix) : Quantity :=
  suffixes.foldl (fun q s => Quantity.join s.quantity q) .one

/-- Whether some suffix lets the item match again. -/
def repeats (suffixes : List Suffix) : Bool :=
  suffixes.any fun s => s == .oneOrMore || s == .zeroOrMore

/-- The names captured by suffixes, in order. -/
def captures (suffixes : List Suffix) : List String :=
  suffixes.filterMap fun
    | capture name => some name
    | _ => none

/-- The quantity of the capture `name` in an item with these suffixes, when `inner` is its
quantity inside the item. -/
def scale (name : String) (suffixes : List Suffix) (inner : Quantity) : Quantity :=
  Quantity.mul (total suffixes) <|
    (captures suffixes).foldl (fun q n => if n = name then Quantity.add q .one else q) inner

end Suffix

namespace Item

/-- Where the text of an item starts; an anchor before it does not count. -/
def offset : Item → Nat
  | node offset .. => offset
  | leaf offset .. => offset
  | group offset .. => offset
  | choice offset .. => offset
  | labelled offset .. => offset
  | anchored item => item.offset
  | clause offset _ => offset

/-- Adds a suffix to an item that can have one. -/
def addSuffix (s : Suffix) : Item → Item
  | node o test children absent closed suffixes =>
    node o test children absent closed (suffixes ++ [s])
  | leaf o test suffixes => leaf o test (suffixes ++ [s])
  | group o items suffixes => group o items (suffixes ++ [s])
  | choice o branches suffixes => choice o branches (suffixes ++ [s])
  | item => item

mutual
/-- How many nodes the capture `name` binds in a match of the item. -/
def quantity (name : String) : Item → Quantity
  | node _ _ children _ _ suffixes => Suffix.scale name suffixes (sumQuantity name children)
  | leaf _ _ suffixes => Suffix.scale name suffixes .zero
  | group _ items suffixes => Suffix.scale name suffixes (sumQuantity name items)
  | choice _ branches suffixes => Suffix.scale name suffixes (joinQuantity name branches)
  | labelled _ _ item => quantity name item
  | anchored item => quantity name item
  | clause _ _ => .zero

/-- The quantity in items that match one after the other. -/
def sumQuantity (name : String) : List Item → Quantity
  | [] => .zero
  | i :: is => Quantity.add (quantity name i) (sumQuantity name is)

/-- The quantity in items of which one matches. -/
def joinQuantity (name : String) : List Item → Quantity
  | [] => .zero
  | [i] => quantity name i
  | i :: is => Quantity.join (quantity name i) (joinQuantity name is)
end

mutual
/-- The clauses in an item, in the order of the text. -/
def clauses : Item → List Clause
  | node _ _ children _ _ _ => clausesOfList children
  | leaf _ _ _ => []
  | group _ items _ => clausesOfList items
  | choice _ branches _ => clausesOfList branches
  | labelled _ _ item => clauses item
  | anchored item => clauses item
  | clause _ c => [c]

/-- The clauses in several items, in the order of the text. -/
def clausesOfList : List Item → List Clause
  | [] => []
  | i :: is => clauses i ++ clausesOfList is
end

mutual
/-- Whether an item tests no node: it consists of clauses. -/
def isHollow : Item → Bool
  | node .. => false
  | leaf .. => false
  | group _ items suffixes => allHollow items && !Suffix.repeats suffixes
  | choice _ branches suffixes =>
    branches.length ≤ 1 && allHollow branches && !Suffix.repeats suffixes
  | labelled _ _ item => isHollow item
  | anchored item => isHollow item
  | clause _ _ => true

/-- Whether all the items consist of clauses. -/
def allHollow : List Item → Bool
  | [] => true
  | i :: is => isHollow i && allHollow is
end

end Item

/-- A whole pattern, with the offset at which it starts. -/
structure Pattern where
  start : Nat
  item : Item
  deriving Repr, Inhabited

end TreeQuery
