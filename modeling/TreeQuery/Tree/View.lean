/-
  TreeQuery.Tree.View

  What is shown of nodes and parsers: the marks of a node, and records of both.
-/

import TreeQuery.Text.Record
import TreeQuery.Tree.Node

namespace TreeQuery

namespace Node

/-- The marks that are set on a node. -/
def marks (n : Node) : List String :=
  [(n.isNamed, "named"), (n.isMissing, "missing"), (n.isError, "error"),
    (n.isDamaged, "has_error")].filterMap fun (isSet, name) => if isSet then some name else none

/-- The node as a record. -/
def describe (n : Node) : String :=
  Record.fields "SyntaxNode"
    [("kind", Text.quoted n.kind.toList), ("byte_range", Record.range n.start n.stop),
      ("text", n.text.quoted)] false

end Node

/-- The parser of a language as a record. -/
def Language.describeParser (l : Language) : String :=
  Record.fields "Parser" [("language", l.title)] true

end TreeQuery
