/-
  TreeQuery.Language.Basic

  The languages whose trees can be queried, and how a language is recognised: by
  its name or an alias, by a file extension, or by the extension of a path.
-/

import TreeQuery.Text.Letters

namespace TreeQuery

/-- A language with a grammar. -/
inductive Language where
  /-- C and C++ sources and headers. -/
  | cpp
  | rust
  /-- Python, with stub files. -/
  | python
  /-- TypeScript and TSX. -/
  | typescript
  deriving DecidableEq, Repr, Inhabited

namespace Language

/-- Every language, in order of preference. -/
def all : List Language := [.cpp, .rust, .python, .typescript]

theorem mem_all (l : Language) : l ∈ all := by cases l <;> decide

/-- The canonical name. -/
def name : Language → String
  | .cpp => "cpp"
  | .rust => "rust"
  | .python => "python"
  | .typescript => "typescript"

/-- The name as it stands in structural descriptions. -/
def title : Language → String
  | .cpp => "Cpp"
  | .rust => "Rust"
  | .python => "Python"
  | .typescript => "TypeScript"

/-- Other names that a language answers to. -/
def aliases : Language → List String
  | .cpp => ["c++", "cxx"]
  | .rust => ["rs"]
  | .python => ["py"]
  | .typescript => ["ts", "tsx"]

/-- File extensions of a language, without the dot. -/
def extensions : Language → List String
  | .cpp => ["cpp", "cc", "cxx", "c++", "h", "hh", "hpp", "hxx"]
  | .rust => ["rs"]
  | .python => ["py", "pyi"]
  | .typescript => ["ts", "tsx", "mts", "cts"]

/-! ## Recognition -/

/-- Equality that ignores the case of ASCII letters. -/
def sameIgnoringCase (known : String) (given : Text) : Bool :=
  known.toList.map Char.toLower == given.map Char.toLower

/-- A name that belongs to no language, without the blanks around it. -/
structure Unknown where
  input : Text
  deriving DecidableEq, Repr

def Unknown.message (e : Unknown) : String :=
  "unsupported language: '" ++ String.ofList e.input ++ "'"

/-- The language with a name or alias, ignoring case and blanks around it. -/
def ofName? (input : Text) : Except Unknown Language :=
  let wanted := input.trim
  match all.find? fun l => (l.name :: l.aliases).any (sameIgnoringCase · wanted) with
  | some l => .ok l
  | none => .error ⟨wanted⟩

/-- The language of a file extension, ignoring case. -/
def ofExtension? (extension : Text) : Option Language :=
  all.find? fun l => l.extensions.any (sameIgnoringCase · extension)

/-- The parts of a path between slashes; empty parts and single dots do not count. -/
def pathParts (path : Text) : List Text :=
  (path.splitOn '/').filter fun part => part ≠ [] ∧ part ≠ ['.']

/-- What follows the last dot of a file name; a dot that opens the name does not count. -/
def nameExtension? (file : Text) : Option Text :=
  let tail := file.reverse.takeWhile (· != '.')
  if tail.length + 1 < file.length then some tail.reverse else none

/-- The language of the file that a path ends in. -/
def ofPath? (path : Text) : Option Language := do
  let file ← (pathParts path).getLast?
  let extension ← if file = ['.', '.'] then none else nameExtension? file
  ofExtension? extension

/-- The canonical name is recognised. -/
theorem ofName?_name (l : Language) : ofName? l.name.toList = .ok l := by
  cases l <;> rfl

end Language
end TreeQuery
