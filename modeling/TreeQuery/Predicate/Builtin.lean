/-
  TreeQuery.Predicate.Builtin

  The predicates that are always there. `eq?` asks that all texts of both sides are
  one and the same, `match?` that every text of a capture matches an expression. A
  side without any text fails both.

  What is wrong with a text that is no expression is told by the library that reads
  expressions. Its words are a parameter, the `explain` of `matchesExpr`.
-/

import TreeQuery.Predicate.Basic
import TreeQuery.Regex.Reader

namespace TreeQuery.Predicate

/-- The texts of one side: those of the captured nodes, or the literal itself. -/
def sideTexts (c : Context) : Argument → List Text
  | .capture ref => c.texts ref
  | .literal text => [text]

/-- Whether both sides have texts, and all of them are the same. -/
def sameTexts (left right : Argument) : Check := fun c =>
  let left := sideTexts c left
  let right := sideTexts c right
  !left.isEmpty && !right.isEmpty && left.all fun l => right.all (l == ·)

/-- Equality of texts. -/
def eq : Predicate where
  signature := .exactly 2 .atLeastOneCapture
  bind
    | [left, right] => .ok (sameTexts left right)
    | arguments => .error (.wrongCount 2 arguments.length)

/-- Whether a capture has texts and an expression is found in all of them. -/
def textsMatch (ref : CaptureRef) (e : Regex.Expr) : Check := fun c =>
  let texts := c.texts ref
  !texts.isEmpty && texts.all e.isIn

/-- Search for a regular expression. The capture and the expression can stand in either order. -/
def matchesExpr (explain : Text → String) : Predicate where
  signature := .exactly 2 .oneCaptureOneLiteral
  bind arguments :=
    match arguments.findSome? Argument.capture?, arguments.findSome? Argument.literal? with
    | none, _ => .error .noCapture
    | _, none => .error .noExpression
    | some ref, some text =>
      match Regex.read? .text text with
      | none => .error (.badExpression text (explain text))
      | some e => .ok (textsMatch ref e)

end TreeQuery.Predicate
