/-
  TreeQuery.Pattern.Quantity

  How many nodes a capture binds in one match, as far as the pattern alone tells:
  a lower bound (none or one) and an upper bound (none, one or many). Three
  operations combine quantities, and each is plain arithmetic of the bounds:

  * `add`: both parts match, one after the other;
  * `join`: one of two parts matches;
  * `mul`: the outer part matches as often as the first quantity says, and each
    time the inner one as often as the second.
-/

namespace TreeQuery

/-- How many nodes a capture binds in one match. -/
inductive Quantity where
  | zero
  | zeroOrOne
  | zeroOrMore
  | one
  | oneOrMore
  deriving DecidableEq, Repr, Inhabited

namespace Quantity

/-- Whether every match binds a node. -/
def isCertain : Quantity → Bool
  | one | oneOrMore => true
  | zero | zeroOrOne | zeroOrMore => false

/-- The most nodes that a match binds, with two standing for many. -/
def most : Quantity → Nat
  | zero => 0
  | zeroOrOne | one => 1
  | zeroOrMore | oneOrMore => 2

/-- The quantity with the given bounds; a certain node makes the upper bound at least one. -/
def ofBounds (certain : Bool) (most : Nat) : Quantity :=
  match certain, most with
  | false, 0 => zero
  | false, 1 => zeroOrOne
  | false, _ => zeroOrMore
  | true, 0 | true, 1 => one
  | true, _ => oneOrMore

@[simp] theorem ofBounds_bounds (q : Quantity) : ofBounds q.isCertain q.most = q := by
  cases q <;> rfl

/-- Both parts match: bounds add up. -/
def add (p q : Quantity) : Quantity := ofBounds (p.isCertain || q.isCertain) (p.most + q.most)

/-- Either part matches: the weaker lower and the greater upper bound. -/
def join (p q : Quantity) : Quantity := ofBounds (p.isCertain && q.isCertain) (max p.most q.most)

/-- One part inside another: bounds multiply. -/
def mul (p q : Quantity) : Quantity := ofBounds (p.isCertain && q.isCertain) (p.most * q.most)

@[simp] theorem zero_add (q : Quantity) : add zero q = q := by cases q <;> rfl

@[simp] theorem add_zero (q : Quantity) : add q zero = q := by cases q <;> rfl

@[simp] theorem one_mul (q : Quantity) : mul one q = q := by cases q <;> rfl

@[simp] theorem mul_zero (q : Quantity) : mul q zero = zero := by cases q <;> rfl

/-- Whether a match may bind several nodes. -/
def isRepeatable (q : Quantity) : Bool := q.most == 2

/-- Whether a match may bind no node. -/
def isOptional (q : Quantity) : Bool := !q.isCertain

end Quantity
end TreeQuery
