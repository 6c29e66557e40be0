/-
  TreeQuery.Substitution.Template

  Templates: texts with placeholders for captured nodes. Read from left to right,
  `@@` is an `@`, an `@` before name characters is a reference to the longest run of
  them, and every other character stands for itself. A reference is resolved to the
  longest beginning of its run that is a capture of the query; what is left of the
  run is text.

  * `Template.parse` reads a template, `Template.print` writes its segments.
  * `Template.render` fills in the texts of the nodes that a match binds.
-/

import TreeQuery.Match.Cursor

namespace TreeQuery

/-- A piece of a template as it is read. -/
inductive TemplateToken where
  | char (c : Char)
  | reference (run : Text)
  deriving DecidableEq, Repr

/-- A part of a template. -/
inductive Segment where
  | literal (text : Text)
  | placeholder (name : String)
  deriving DecidableEq, Repr

namespace TemplateToken

/-- Splits a template into characters and references. -/
def ofText : Text → List TemplateToken
  | [] => []
  | '@' :: '@' :: rest => .char '@' :: ofText rest
  | '@' :: rest =>
    let run := rest.takeWhile isNameChar
    if run.isEmpty then .char '@' :: ofText rest
    else .reference run :: ofText (rest.dropWhile isNameChar)
  | c :: rest => .char c :: ofText rest
termination_by t => t.length
decreasing_by
  · simp only [List.length_cons]
    omega
  · simp
  · have := (List.dropWhile_suffix (l := rest) isNameChar).length_le
    simp only [List.length_cons]
    omega
  · simp

end TemplateToken

/-- A template that has been read. -/
structure Template where
  text : Text
  segments : List Segment
  deriving DecidableEq, Repr

namespace Template

/-! ## Reading -/

/-- The longest beginning of `run`, of at most `n` characters, that is one of the names, and
what follows it. -/
def longestName? (names : List String) (run : Text) : Nat → Option (String × Text)
  | 0 => none
  | n + 1 =>
    let name := String.ofList (run.take (n + 1))
    if names.contains name then some (name, run.drop (n + 1)) else longestName? names run n

/-- How a reference that is no capture is reported: its run, up to the last letter, digit or
`_`. -/
def reportedName (run : Text) : Text :=
  (run.reverse.dropWhile fun c => !isLetterOrNumber c && c != '_').reverse

/-- Puts text in front of segments; texts that meet become one. -/
def consLiteral (text : Text) (segments : List Segment) : List Segment :=
  if text.isEmpty then segments
  else
    match segments with
    | .literal more :: rest => .literal (text ++ more) :: rest
    | segments => .literal text :: segments

/-- Resolves references. The first that is no capture is the error. -/
def resolve (names : List String) : List TemplateToken → Except Text (List Segment)
  | [] => .ok []
  | .char c :: tokens => do
    return consLiteral [c] (← resolve names tokens)
  | .reference run :: tokens =>
    match longestName? names run run.length with
    | none => .error (reportedName run)
    | some (name, rest) => do
      return .placeholder name :: consLiteral rest (← resolve names tokens)

/-- Reads a template whose placeholders are captures of a query; the error is the name of a
reference that is none. -/
def parse (text : Text) (q : Query) : Except Text Template := do
  return ⟨text, ← resolve q.captures (TemplateToken.ofText text)⟩

/-! ## Writing -/

/-- A text in which every `@` is doubled. -/
def escape (text : Text) : Text := text.flatMap fun c => if c = '@' then ['@', '@'] else [c]

/-- A segment as it is written in a template. -/
def printSegment : Segment → Text
  | .literal text => escape text
  | .placeholder name => '@' :: name.toList

/-- Segments as they are written in a template. -/
def print (segments : List Segment) : Text := segments.flatMap printSegment

/-- The names of the placeholders, in order. -/
def placeholders (t : Template) : List String :=
  t.segments.filterMap fun
    | .placeholder name => some name
    | .literal _ => none

/-! ## Filling in -/

/-- The text of a segment for a match: a placeholder stands for the first node it binds, and for
nothing when it binds none. -/
def renderSegment (m : Match) (source : Text) : Segment → Text
  | .literal text => text
  | .placeholder name => ((m.capture? name).map (·.textIn source)).getD []

/-- The template filled in for a match. -/
def render (t : Template) (m : Match) (source : Text) : Text :=
  t.segments.flatMap (renderSegment m source)

end Template
end TreeQuery
