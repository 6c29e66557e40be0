/-
  TreeQuery.Language.Vocabulary

  What a grammar says about its trees, as far as queries need it: the kinds of
  named nodes, the anonymous tokens, the field names, the supertypes with the
  kinds they stand for, and what is known of the kinds that can stand where.

  The names are all those of the grammar. Which children a node can have is settled
  by the parse tables that a grammar is compiled to, and these are no part of a
  vocabulary. It holds two excerpts from them: the kinds of tokens, and some children
  that never occur. What neither excludes counts as possible.
-/

namespace TreeQuery

/-- A child that never occurs: `parent` has no `child` under the label `field` (`none`: under
any label or none). -/
structure BarredChild where
  parent : String
  field : Option String
  child : String
  deriving DecidableEq, Repr

/-- The words of a grammar. -/
structure Vocabulary where
  /-- Kinds of named nodes. -/
  named : List String
  /-- Texts of anonymous tokens. -/
  anonymous : List String
  /-- Labels that a child can have under its parent. -/
  fields : List String
  /-- Supertypes and the kinds listed for each; an empty list lists nothing. -/
  supertypes : List (String × List String)
  /-- Kinds of tokens: nodes of these kinds never have children. -/
  childless : List String
  /-- Some of the children that never occur under nodes of other kinds. -/
  barred : List BarredChild

namespace Vocabulary

/-- Whether `name` is a supertype. -/
def isSupertype (v : Vocabulary) (name : String) : Bool :=
  v.supertypes.any (·.1 == name)

/-- Whether `kind` may stand for `supertype` in a query: it is listed, or nothing is. -/
def allowsSubtype (v : Vocabulary) (supertype kind : String) : Bool :=
  v.supertypes.any fun (s, kinds) => s == supertype && (kinds.isEmpty || kinds.contains kind)

/-- Whether a node of kind `parent` can have a child of kind `child` under `field`, as far as
the vocabulary tells. -/
def admits (v : Vocabulary) (parent : String) (field : Option String) (child : String) : Bool :=
  !v.barred.any fun b =>
    b.parent == parent && b.child == child && (b.field.isNone || b.field == field)

end Vocabulary
end TreeQuery
