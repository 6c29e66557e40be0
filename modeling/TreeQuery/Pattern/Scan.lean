/-
  TreeQuery.Pattern.Scan

  The lexical level of pattern texts: blanks and comments, names, and strings. Each
  function reads from a place in the text and answers the place after what it read,
  so that offsets and the rest of the text stay together.
-/

import TreeQuery.Text.Basic

namespace TreeQuery

/-- A place in a text that is being read: its offset and what follows. -/
structure Place where
  offset : Nat
  rest : Text
  deriving DecidableEq, Repr, Inhabited

namespace Place

/-- The place after the character `c`, which stands first, when `rest` follows it. -/
def past (offset : Nat) (c : Char) (rest : Text) : Place := ⟨offset + c.utf8Size, rest⟩

end Place

namespace Scan

/-- Characters that separate: the six blanks of ASCII. -/
def isSpace (c : Char) : Bool :=
  c == ' ' || c == '\t' || c == '\n' || c == '\x0b' || c == '\x0c' || c == '\r'

/-- Characters that can start a name; only ASCII letters and digits count. -/
def startsName (c : Char) : Bool := c.isAlphanum || c == '_' || c == '-'

/-- Characters that can continue a name. -/
def continuesName (c : Char) : Bool := startsName c || c == '.' || c == '?' || c == '!'

/-- Skips blanks and comments; a comment runs from `;` to the end of the line or to a null
character. -/
def skip (inComment : Bool) (offset : Nat) : Text → Place
  | [] => ⟨offset, []⟩
  | c :: rest =>
    if inComment then
      if c == '\x00' then ⟨offset, c :: rest⟩
      else skip (c != '\n') (offset + c.utf8Size) rest
    else if isSpace c then skip false (offset + c.utf8Size) rest
    else if c == ';' then skip true (offset + c.utf8Size) rest
    else ⟨offset, c :: rest⟩

/-- The place after blanks and comments. -/
def blanks (p : Place) : Place := skip false p.offset p.rest

/-- Whether a name starts at a place. -/
def atName (p : Place) : Bool := p.rest.head?.any startsName

/-- The longest name that starts at a place where `atName` holds, and the place after it. -/
def name (p : Place) : String × Place :=
  let chars := p.rest.takeWhile continuesName
  (String.ofList chars, ⟨p.offset + Text.size chars, p.rest.dropWhile continuesName⟩)

/-- The character that an escape stands for. -/
def unescape (c : Char) : Char :=
  match c with
  | 'n' => '\n'
  | 'r' => '\r'
  | 't' => '\t'
  | '0' => '\x00'
  | c => c

/-- The content of a string whose opening quote has been read, and the place after its
closing quote; `none` when a line feed or the end of the text comes first. -/
def string (escaped : Bool) (offset : Nat) : Text → Option (Text × Place)
  | [] => none
  | c :: rest =>
    if escaped then
      (string false (offset + c.utf8Size) rest).map fun (t, p) => (unescape c :: t, p)
    else if c == '\\' then string true (offset + c.utf8Size) rest
    else if c == '"' then some ([], .past offset c rest)
    else if c == '\n' then none
    else (string false (offset + c.utf8Size) rest).map fun (t, p) => (c :: t, p)

end Scan
end TreeQuery
