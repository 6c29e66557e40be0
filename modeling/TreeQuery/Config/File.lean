/-
  TreeQuery.Config.File

  Configuration files in TOML. A file is a sequence of lines, each of them empty, a
  header in brackets or an assignment; values can run over several lines. A file is
  read as the list of its assignments, each with the whole path of its key. The same
  path cannot be assigned twice, nor can a path lead through a value.

  Of a value it only counts whether it is a string, and which.
-/

import TreeQuery.Config.Setting
import TreeQuery.Regex.Reader

namespace TreeQuery

/-- What a file says: the values that it assigns to paths of keys, and the paths of its
headers. -/
structure ConfigFile where
  assignments : List (List Text × Setting)
  headers : List (List Text)
  deriving DecidableEq, Repr

namespace ConfigFile

/-! ## Blanks, comments and line ends -/

def isSpace (c : Char) : Bool := c == ' ' || c == '\t'

def skipSpaces (t : Text) : Text := t.dropWhile isSpace

/-- What follows a comment, or the whole text. -/
def skipComment : Text → Text
  | '#' :: t => t.dropWhile (!Setting.isControl ·)
  | t => t

/-- What follows a line end. -/
def lineEnd? : Text → Option Text
  | '\n' :: t => some t
  | '\r' :: '\n' :: t => some t
  | _ => none

/-- What follows the rest of a line in which only blanks and a comment may stand. -/
def endLine? (t : Text) : Option Text :=
  let rest := skipComment (skipSpaces t)
  if rest.isEmpty then some [] else lineEnd? rest

/-- Skips blanks, comments and line ends. -/
def skipLines : Nat → Text → Text
  | 0, t => t
  | fuel + 1, t =>
    let rest := skipComment (skipSpaces t)
    match lineEnd? rest with
    | some more => skipLines fuel more
    | none => rest

/-! ## Strings -/

/-- The text up to a closing single quote. -/
def literal? (t : Text) : Option (Text × Text) :=
  let content := t.takeWhile fun c => c != '\'' && !Setting.isControl c
  match t.dropWhile fun c => c != '\'' && !Setting.isControl c with
  | '\'' :: rest => some (content, rest)
  | _ => none

/-- The text up to three closing quotes; up to two quotes more before them belong to the text.
In a text between double quotes a backslash begins an escape, and one at the end of a line leaves
out all blanks and line ends that follow. -/
def longString? (quote : Char) : Nat → Text → Option (Text × Text)
  | 0, _ => none
  | fuel + 1, t =>
    match t with
    | [] => none
    | c :: rest =>
      if c == quote then
        let quotes := t.takeWhile (· == quote)
        let after := t.drop quotes.length
        if quotes.length < 3 then
          (longString? quote fuel after).map fun (more, rest) => (quotes ++ more, rest)
        else if quotes.length ≤ 5 then some (quotes.drop 3, after)
        else none
      else if c == '\\' && quote == '"' then
        match lineEnd? (skipSpaces rest) with
        | some more =>
          longString? quote fuel (more.dropWhile fun c => isSpace c || c == '\n' || c == '\r')
        | none =>
          match Setting.escaped? rest with
          | none => none
          | some (e, rest) =>
            (longString? quote fuel rest).map fun (more, rest) => (e :: more, rest)
      else
        match lineEnd? t with
        | some rest => (longString? quote fuel rest).map fun (more, rest) => ('\n' :: more, rest)
        | none =>
          if Setting.isControl c then none
          else (longString? quote fuel rest).map fun (more, rest) => (c :: more, rest)

/-- The string that a text begins with. -/
def string? (t : Text) : Option (Text × Text) :=
  match t with
  | '"' :: '"' :: '"' :: rest => longString? '"' (rest.length + 1) ((lineEnd? rest).getD rest)
  | '\'' :: '\'' :: '\'' :: rest =>
    longString? '\'' (rest.length + 1) ((lineEnd? rest).getD rest)
  | '"' :: rest => Setting.quoted? (rest.length + 1) rest
  | '\'' :: rest => literal? rest
  | _ => none

/-! ## Keys -/

def isBareKeyChar (c : Char) : Bool := c.isAlphanum || c == '_' || c == '-'

/-- One part of a key. -/
def simpleKey? (t : Text) : Option (Text × Text) :=
  match t with
  | '"' :: rest => Setting.quoted? (rest.length + 1) rest
  | '\'' :: rest => literal? rest
  | _ =>
    let name := t.takeWhile isBareKeyChar
    if name.isEmpty then none else some (name, t.drop name.length)

/-- A key: parts with dots between them. -/
def key? : Nat → Text → Option (List Text × Text)
  | 0, _ => none
  | fuel + 1, t =>
    match simpleKey? (skipSpaces t) with
    | none => none
    | some (part, rest) =>
      match skipSpaces rest with
      | '.' :: more => (key? fuel more).map fun (parts, rest) => (part :: parts, rest)
      | rest => some ([part], rest)

/-! ## Values -/

/-- The forms of values that are neither strings nor in brackets: flags, whole numbers, numbers
with a point or an exponent, dates and times. -/
def plainForms : List String :=
  ["true|false", "[+-]?(0|[1-9](_?[0-9])*)", "0x[0-9A-Fa-f](_?[0-9A-Fa-f])*", "0o[0-7](_?[0-7])*",
    "0b[01](_?[01])*", "[+-]?(inf|nan)",
    "[+-]?(0|[1-9](_?[0-9])*)([.][0-9](_?[0-9])*)?([eE][+-]?[0-9](_?[0-9])*)?",
    "[0-9][0-9][0-9][0-9]-[01][0-9]-[0-3][0-9]" ++
      "([Tt][0-2][0-9]:[0-5][0-9]:[0-6][0-9]([.][0-9]+)?([Zz]|[+-][0-2][0-9]:[0-5][0-9])?)?",
    "[0-2][0-9]:[0-5][0-9]:[0-6][0-9]([.][0-9]+)?"]

/-- Whether a word is a value of such a form. -/
def isPlain (word : Text) : Bool :=
  plainForms.any fun form =>
    (Regex.read? .text ("^(" ++ form ++ ")$").toList).any (·.isIn word)

def isPlainChar (c : Char) : Bool :=
  c.isAlphanum || c == '_' || c == '-' || c == '+' || c == '.' || c == ':'

/-- A value that is neither a string nor in brackets. -/
def plain? (t : Text) : Option (Setting × Text) :=
  let word := t.takeWhile isPlainChar
  if isPlain word then some (.other, t.drop word.length) else none

/-- Whether no path of `paths` leads through `path` or is led through by it. -/
def isFree (paths : List (List Text)) (path : List Text) : Bool :=
  paths.all fun p => !p.isPrefixOf path && !path.isPrefixOf p

mutual

/-- The value that a text begins with. -/
def value? : Nat → Text → Option (Setting × Text)
  | 0, _ => none
  | fuel + 1, t =>
    match t with
    | '"' :: _ | '\'' :: _ => (string? t).map fun (content, rest) => (.text content, rest)
    | '[' :: rest => (items? fuel rest).map (.other, ·)
    | '\x7b' :: rest =>
      match skipSpaces rest with
      | '\x7d' :: rest => some (.other, rest)
      | rest => (fields? fuel [] rest).map (.other, ·)
    | _ => plain? t

/-- What follows the values of a list, after its opening bracket or a comma. -/
def items? : Nat → Text → Option Text
  | 0, _ => none
  | fuel + 1, t =>
    match skipLines t.length t with
    | ']' :: rest => some rest
    | t =>
      match value? fuel t with
      | none => none
      | some (_, rest) =>
        match skipLines rest.length rest with
        | ']' :: rest => some rest
        | ',' :: rest => items? fuel rest
        | _ => none

/-- What follows the assignments of a table in braces. -/
def fields? : Nat → List (List Text) → Text → Option Text
  | 0, _, _ => none
  | fuel + 1, paths, t =>
    match key? t.length t with
    | some (path, '=' :: rest) =>
      if isFree paths path then
        match value? fuel (skipSpaces rest) with
        | none => none
        | some (_, rest) =>
          match skipSpaces rest with
          | '\x7d' :: rest => some rest
          | ',' :: rest => fields? fuel (path :: paths) rest
          | _ => none
      else none
    | _ => none

end

/-! ## Lines -/

/-- The path of a header, whether it begins an item of a list of tables, and what follows it. -/
def header? (t : Text) : Option (List Text × Bool × Text) :=
  match t with
  | '[' :: '[' :: rest =>
    match key? rest.length rest with
    | some (path, ']' :: ']' :: rest) => (endLine? rest).map (path, true, ·)
    | _ => none
  | '[' :: rest =>
    match key? rest.length rest with
    | some (path, ']' :: rest) => (endLine? rest).map (path, false, ·)
    | _ => none
  | _ => none

/-- An assignment, and what follows its line. -/
def assignment? (t : Text) : Option (List Text × Setting × Text) :=
  match key? t.length t with
  | some (path, '=' :: rest) =>
    match value? (rest.length + 1) (skipSpaces rest) with
    | none => none
    | some (value, rest) => (endLine? rest).map (path, value, ·)
  | _ => none

/-- A file whose last header is `table`, read on from the beginning of a line. -/
def lines? : Nat → ConfigFile → List Text → Text → Option ConfigFile
  | 0, _, _, _ => none
  | fuel + 1, file, table, t =>
    match skipLines (t.length + 1) t with
    | [] => some file
    | t@('[' :: _) =>
      match header? t with
      | none => none
      | some (path, isItem, rest) =>
        if file.assignments.any (·.1.isPrefixOf path) then none
        else if isItem then
          lines? fuel
            ⟨file.assignments.filter (!path.isPrefixOf ·.1),
              path :: file.headers.filter (!path.isPrefixOf ·)⟩ path rest
        else if file.headers.contains path then none
        else lines? fuel { file with headers := path :: file.headers } path rest
    | t =>
      match assignment? t with
      | none => none
      | some (path, value, rest) =>
        let path := table ++ path
        if isFree (file.assignments.map (·.1)) path && !file.headers.any (path.isPrefixOf ·) then
          lines? fuel { file with assignments := (path, value) :: file.assignments } table rest
        else none

/-- Reads a file. -/
def read? (t : Text) : Option ConfigFile := lines? (t.length + 1) ⟨[], []⟩ [] t

/-- The value of a key at the head of a file; a table is no text. -/
def setting? (file : ConfigFile) (key : Text) : Option Setting :=
  match file.assignments.find? (·.1 == [key]) with
  | some (_, value) => some value
  | none =>
    let isTable := fun (path : List Text) => path.head? == some key
    if file.headers.any isTable || file.assignments.any (isTable ·.1) then some .other else none

end ConfigFile
end TreeQuery
