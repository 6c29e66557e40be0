/-
  TreeQuery.Config.Basic

  What can be configured: which log records are written and how, and which capture a
  substitution replaces. A configuration is valid when the name of that capture is more
  than `@` signs.
-/

import TreeQuery.Text.Basic

namespace TreeQuery

/-- How log records are written. -/
inductive LogFormat where
  | json
  | compact
  deriving DecidableEq, Repr

namespace LogFormat

/-- The name of a format in settings. -/
def name : LogFormat → String
  | json => "json"
  | compact => "compact"

/-- The name of a format in records. -/
def title : LogFormat → String
  | json => "Json"
  | compact => "Compact"

def all : List LogFormat := [json, compact]

/-- The format of exactly this name. -/
def ofName? (text : Text) : Option LogFormat := all.find? (·.name.toList == text)

/-- The format of a name in which the case of ASCII letters does not count. -/
def ofText? (text : Text) : Option LogFormat := ofName? (text.map Char.toLower)

/-- The error for a text that names no format. -/
def unknownMessage : String := "Matching variant not found"

theorem ofName?_name (f : LogFormat) : ofName? f.name.toList = some f := by
  cases f <;> decide

end LogFormat

/-- The settings of the engine. -/
structure Config where
  logFilter : String
  logFormat : LogFormat
  /-- The capture whose span a substitution replaces. -/
  anchor : String
  deriving DecidableEq, Repr

/-- Why there is no configuration. -/
inductive ConfigError where
  /-- A source of settings cannot be read, or a setting has no value of its kind. -/
  | unreadable
  | emptyAnchor
  deriving DecidableEq, Repr

def ConfigError.message : ConfigError → String
  | unreadable => "failed to load configuration"
  | emptyAnchor => "invalid configuration: anchor_capture must not be empty"

namespace Config

/-- The settings that hold when nothing else is said. -/
def defaults : Config := ⟨"info", .json, "from"⟩

/-- Whether the name of the anchor is more than `@` signs. -/
def isValid (c : Config) : Bool := !(c.anchor.toList.dropWhile (· == '@')).isEmpty

/-- The configuration, if it is valid. -/
def validated (c : Config) : Except ConfigError Config :=
  if c.isValid then .ok c else .error .emptyAnchor

end Config
end TreeQuery
