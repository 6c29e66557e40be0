/-
  TreeQuery.Telemetry.Filter

  Log filters: directives with commas between them. A directive names a target, spans
  in brackets or both, and can end with `=` and a level, which may be left out.
-/

import TreeQuery.Text.Basic

namespace TreeQuery.LogFilter

/-- The names of levels. -/
def levels : List String := ["off", "error", "warn", "info", "debug", "trace", "0", "1", "2", "3",
  "4", "5"]

/-- Whether a text names a level; the case of letters does not count. -/
def isLevel (t : Text) : Bool := levels.any (·.toList == t.map Char.toLower)

/-- A text without its parts in brackets. -/
def dropBrackets (inside : Bool) : Text → Text
  | [] => []
  | '[' :: t => dropBrackets true t
  | ']' :: t => dropBrackets false t
  | c :: t => if inside then dropBrackets true t else c :: dropBrackets false t

/-- The directives of a filter. -/
def directives (t : Text) : List Text := t.splitOn ','

/-- Whether the level of a directive, if it has one, is known. -/
def isDirective (t : Text) : Bool :=
  match (dropBrackets false t).dropWhile (· != '=') with
  | '=' :: level => level.isEmpty || isLevel level
  | _ => true

/-- Whether a text is a filter. -/
def isValid (t : Text) : Bool := (directives t).all isDirective

end TreeQuery.LogFilter
