/-
  TreeQuery.Query.Marked

  Query texts with marked operators. The pattern language has predicates of its own
  under plain names; a mark before each operator name that follows `#` keeps clauses
  apart from them. Marks are put in before the text is read as a pattern, and places
  in the marked text are mapped back to places in the caller's text.

  An operator is marked when its `#` stands outside strings and comments and is
  followed by a character that is neither a blank nor `)`.

  * `Marked.ofText` marks a text and notes where marks were put in.
  * `Marked.toBare` maps an offset back; inside a mark it is the operator's start.
  * `Marked.unmark` takes a mark off an operator name.
-/

import TreeQuery.Text.Letters

namespace TreeQuery

/-- What is put before an operator name. -/
def operatorMark : Text := "weaver-".toList

/-- Where in a query text a character stands. -/
inductive Zone where
  | plain
  | string
  /-- In a string, after a backslash. -/
  | escaped
  | comment
  deriving DecidableEq, Repr

namespace Zone

/-- The zone after the character `c`. -/
def after (c : Char) : Zone → Zone
  | plain => if c = '"' then string else if c = ';' then comment else plain
  | string => if c = '\\' then escaped else if c = '"' then plain else string
  | escaped => string
  | comment => if c = '\n' then plain else comment

end Zone

/-- Whether a name starts after `#`, when `rest` follows it. -/
def startsOperator (rest : Text) : Bool := rest.head?.any fun c => !isBlank c && c != ')'

/-- A query text with marks, and the offsets in the caller's text at which they were put in. -/
structure Marked where
  bare : Text
  text : Text
  insertions : List Nat
  deriving DecidableEq, Repr

namespace Marked

/-- The text from a zone on, with marks. -/
def markFrom (zone : Zone) : Text → Text
  | [] => []
  | c :: rest =>
    let more := markFrom (zone.after c) rest
    if zone = .plain ∧ c = '#' ∧ startsOperator rest then c :: operatorMark ++ more
    else c :: more

/-- The offsets at which marks are put in, when the text starts at `offset`. -/
def insertionsFrom (zone : Zone) (offset : Nat) : Text → List Nat
  | [] => []
  | c :: rest =>
    let next := offset + c.utf8Size
    let more := insertionsFrom (zone.after c) next rest
    if zone = .plain ∧ c = '#' ∧ startsOperator rest then next :: more else more

/-- Marks the operators of a text. -/
def ofText (t : Text) : Marked := ⟨t, markFrom .plain t, insertionsFrom .plain 0 t⟩

/-- The offsets of the `#` before marks, in the caller's text. -/
def sites (m : Marked) : List Nat := m.insertions.map (· - 1)

/-- Maps an offset back past marks put in at `insertions`, of which `shift` bytes lie behind. -/
def mapBack (offset shift : Nat) : List Nat → Nat
  | [] => offset - shift
  | i :: insertions =>
    if offset < i + shift then offset - shift
    else if offset < i + shift + operatorMark.size then i
    else mapBack offset (shift + operatorMark.size) insertions

/-- Maps an offset in the marked text to the caller's text. -/
def toBare (m : Marked) (offset : Nat) : Nat := mapBack offset 0 m.insertions

/-- An operator name without the mark before it, if there is one. -/
def unmark (name : Text) : Text :=
  if operatorMark.isPrefixOf name then name.drop operatorMark.length else name

/-- A text in which every `#` followed by a mark stands alone. -/
def dropMarks : Text → Text
  | [] => []
  | c :: rest =>
    if c = '#' ∧ operatorMark.isPrefixOf rest then c :: dropMarks (rest.drop operatorMark.length)
    else c :: dropMarks rest
termination_by t => t.length
decreasing_by all_goals simp; try omega

end Marked
end TreeQuery
