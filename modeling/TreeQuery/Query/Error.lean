/-
  TreeQuery.Query.Error

  Errors of query texts: a kind, a place (offset, row and column, all in bytes and
  from zero), and a text. For texts that are no pattern, the error's text is the
  line concerned with a caret under the place.
-/

import TreeQuery.Query.Marked
import TreeQuery.Pattern.Reader

namespace TreeQuery

/-- What is wrong with a query. -/
inductive QueryErrorKind where
  | malformed
  | nodeType
  | field
  | capture
  | structural
  | unknownPredicate
  | predicateArity
  | predicateArgument
  | language
  deriving DecidableEq, Repr

/-- The kind in words. -/
def QueryErrorKind.label : QueryErrorKind → String
  | malformed => "syntax error"
  | nodeType => "unknown node type"
  | field => "unknown field"
  | capture => "capture error"
  | structural => "structure error"
  | unknownPredicate => "unknown predicate"
  | predicateArity => "predicate arity error"
  | predicateArgument => "predicate argument error"
  | language => "language error"

/-- An error of a query text. -/
structure QueryError where
  kind : QueryErrorKind
  row : Nat
  column : Nat
  offset : Nat
  text : String
  deriving DecidableEq, Repr

/-- The error on one line, with its place. -/
def QueryError.message (e : QueryError) : String :=
  e.kind.label ++ " at " ++ toString e.row ++ ":" ++ toString e.column ++ ": " ++ e.text

/-- An error at an offset of a text. -/
def QueryError.ofOffset (source : Text) (kind : QueryErrorKind) (offset : Nat) (text : String) :
    QueryError :=
  let (row, column) := (source.before offset).rowColumn
  ⟨kind, row, column, offset, text⟩

/-- The line of an offset, and a caret under the column. -/
def caretText (source : Text) (offset : Nat) : Text :=
  let (_, column) := (source.before offset).rowColumn
  (source.after (offset - column)).firstLine ++ '\n' :: List.replicate column ' ' ++ ['^']

/-- The name that stands at an offset of a text: up to the next quote that is not escaped, if a
quote stands before it, and otherwise the letters, digits, `_` and `-`. -/
def nameAt (source : Text) (offset : Nat) : Text :=
  let rest := source.after offset
  if (source.before offset).getLast? = some '"' then quotedName false rest
  else rest.takeWhile fun c => isLetterOrNumber c || c == '_' || c == '-'
where
  /-- The characters before a quote; `escaped` says that an odd number of backslashes precede. -/
  quotedName (escaped : Bool) : Text → Text
    | [] => []
    | c :: rest =>
      if c == '"' && !escaped then []
      else c :: quotedName (c == '\\' && !escaped) rest

namespace Marked

/-- An error at an offset of the caller's text. -/
def errorAt (m : Marked) (kind : QueryErrorKind) (offset : Nat) (text : String) : QueryError :=
  .ofOffset m.bare kind offset text

/-- A text that mentions the marked text, without marks. -/
def cleanText (t : Text) : String := String.ofList (unmark (dropMarks t))

/-- The error of a fault in the marked text, at its place in the caller's text. -/
def ofFault (m : Marked) (f : Fault) : QueryError :=
  let offset := min (m.toBare f.offset) m.bare.size
  let named := cleanText (nameAt m.text f.offset)
  let caret := String.ofList (caretText m.bare offset)
  match f.cause with
  | .malformed => m.errorAt .malformed offset caret
  | .impossible => m.errorAt .structural offset caret
  | .unknownKind => m.errorAt .nodeType offset named
  | .unknownField => m.errorAt .field offset named
  | .unknownCapture => m.errorAt .capture offset named

end Marked
end TreeQuery
