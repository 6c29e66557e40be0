/-
  TreeQuery.Text.Record

  Values written as records: a name and its fields between braces, a list between
  brackets, an optional value as `Some(…)` or `None`.
-/

import TreeQuery.Text.Quoted

namespace TreeQuery.Record

def openBrace : String := "\x7b"

def closeBrace : String := "\x7d"

/-- A name with fields; `partly` says that not all of them are shown. -/
def fields (name : String) (items : List (String × String)) (partly : Bool) : String :=
  let shown := items.map fun (label, value) => label ++ ": " ++ value
  let shown := if partly then shown ++ [".."] else shown
  name ++ " " ++ openBrace ++ " " ++ ", ".intercalate shown ++ " " ++ closeBrace

/-- Values between brackets. -/
def list (items : List String) : String := "[" ++ ", ".intercalate items ++ "]"

/-- A value that may be absent. -/
def option : Option String → String
  | none => "None"
  | some value => "Some(" ++ value ++ ")"

/-- A name applied to one value. -/
def wrap (name value : String) : String := name ++ "(" ++ value ++ ")"

/-- A range of offsets. -/
def range (start stop : Nat) : String := toString start ++ ".." ++ toString stop

end TreeQuery.Record
