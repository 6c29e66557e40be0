/-
  TreeQuery.Document.Buffer

  A text with a cursor. Every operation checks its offsets first: a range must not be
  inverted, and an offset must lie in the text and between two of its characters. An
  operation that fails changes nothing; the first check that fails is the error, the
  start of a range being checked before its end.

  Lines and columns count from one; columns count characters.
-/

import TreeQuery.Document.Edit

namespace TreeQuery

/-- Why an operation on a document fails. -/
inductive DocumentError where
  | outOfBounds (offset size : Nat)
  | notBoundary (offset : Nat)
  | inverted (start stop : Nat)
  deriving DecidableEq, Repr

def DocumentError.message : DocumentError → String
  | outOfBounds offset size =>
    "offset " ++ toString offset ++ " is out of bounds for a document of " ++ toString size ++
      " bytes"
  | notBoundary offset => "offset " ++ toString offset ++ " is not on a character boundary"
  | inverted start stop => "range " ++ Record.range start stop ++ " is inverted"

/-- A text and the offset of its cursor. -/
structure Buffer where
  text : Text
  cursor : Nat
  deriving DecidableEq, Repr, Inhabited

namespace Buffer

/-- A text with the cursor at its beginning. -/
def ofText (text : Text) : Buffer := ⟨text, 0⟩

/-- Checks that an offset lies in the text and between characters. -/
def checkOffset (b : Buffer) (offset : Nat) : Except DocumentError Unit :=
  if b.text.size < offset then .error (.outOfBounds offset b.text.size)
  else if b.text.isBoundary offset then .ok ()
  else .error (.notBoundary offset)

/-- Checks both ends of a range. -/
def checkRange (b : Buffer) (start stop : Nat) : Except DocumentError Unit := do
  if stop < start then throw (.inverted start stop)
  b.checkOffset start
  b.checkOffset stop

/-- The line and the column of an offset. -/
def lineColumn (b : Buffer) (offset : Nat) : Except DocumentError (Nat × Nat) := do
  b.checkOffset offset
  let front := b.text.before offset
  return (front.newlines + 1, front.lastLine.length + 1)

/-- Moves the cursor. -/
def setCursor (b : Buffer) (offset : Nat) : Except DocumentError Buffer := do
  b.checkOffset offset
  return { b with cursor := offset }

/-- Puts a text in the place of a range; the cursor follows the edit. -/
def replace (b : Buffer) (start stop : Nat) (text : Text) :
    Except DocumentError (Buffer × Edit) := do
  b.checkRange start stop
  let edit : Edit := ⟨start, stop - start, text.size⟩
  return (⟨b.text.before start ++ text ++ b.text.after stop, edit.remap b.cursor⟩, edit)

end Buffer
end TreeQuery
