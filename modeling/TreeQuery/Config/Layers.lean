/-
  TreeQuery.Config.Layers

  Layers of settings. Settings come from a file, from environment variables and from
  the command line; each layer goes before the ones that are named before it, and
  what none of them sets has its default. Only the values that count in the end have to
  be of the right kind.

  The file is the one that the command line names, which must exist, or else the one
  that a variable names, which need not.
-/

import TreeQuery.Config.Basic
import TreeQuery.Config.File
import TreeQuery.Config.Flags

namespace TreeQuery

/-- The settings of one layer. -/
structure Layer where
  logFilter : Option Setting
  logFormat : Option Setting
  anchor : Option Setting
  deriving DecidableEq, Repr

namespace Layer

/-- A layer that sets nothing. -/
def empty : Layer := ⟨none, none, none⟩

/-- The settings of `top`, and below them those of `bottom`. -/
def atop (top bottom : Layer) : Layer where
  logFilter := top.logFilter.or bottom.logFilter
  logFormat := top.logFormat.or bottom.logFormat
  anchor := top.anchor.or bottom.anchor

@[simp] theorem empty_atop (l : Layer) : empty.atop l = l := by cases l; rfl

@[simp] theorem atop_empty (l : Layer) : l.atop empty = l := by
  rcases l with ⟨_ | _, _ | _, _ | _⟩ <;> rfl

theorem atop_assoc (a b c : Layer) : (a.atop b).atop c = a.atop (b.atop c) := by
  simp [atop, Option.or_assoc]

/-! ## Sources -/

/-- The settings of a file. -/
def ofFile (file : ConfigFile) : Layer where
  logFilter := file.setting? "log_filter".toList
  logFormat := file.setting? "log_format".toList
  anchor := file.setting? "anchor_capture".toList

/-- The settings of environment variables; `get?` gives the value of a variable. -/
def ofVariables (get? : String → Option Text) : Layer where
  logFilter := (get? "WEAVER_QUERY_LOG_FILTER").map .ofVariable
  logFormat := (get? "WEAVER_QUERY_LOG_FORMAT").map .ofVariable
  anchor := (get? "WEAVER_QUERY_ANCHOR_CAPTURE").map .ofVariable

/-- The settings of flags. -/
def ofFlags (values : Flag.Values) : Layer where
  logFilter := (Flag.value? values .logFilter).map .text
  logFormat := (Flag.value? values .logFormat).map .text
  anchor := (Flag.value? values .anchor).map .text

/-! ## Results -/

/-- The text of a setting, or its default when it is not set; `none` when it is no text. -/
def textOr (default : String) : Option Setting → Option String
  | none => some default
  | some (.text content) => some (String.ofList content)
  | some .other => none

/-- The format that a setting names. -/
def formatOr (default : LogFormat) : Option Setting → Option LogFormat
  | none => some default
  | some (.text content) => LogFormat.ofName? content
  | some .other => none

/-- The configuration of a layer. -/
def config? (l : Layer) : Option Config := do
  return ⟨← textOr Config.defaults.logFilter l.logFilter,
    ← formatOr Config.defaults.logFormat l.logFormat, ← textOr Config.defaults.anchor l.anchor⟩

end Layer

/-- Where settings come from. -/
structure SettingSources where
  /-- The contents of the file at a path. -/
  file? : Text → Option Text
  /-- The value of an environment variable. -/
  environment : String → Option Text
  /-- The arguments of the command line. -/
  arguments : List Text

namespace SettingSources

/-- The layer of the file. -/
def fileLayer? (s : SettingSources) (values : Flag.Values) : Option Layer :=
  match Flag.value? values .configPath with
  | some path => do
    let contents ← s.file? path
    return .ofFile (← ConfigFile.read? contents)
  | none =>
    match (s.environment "WEAVER_QUERY_CONFIG_PATH").bind s.file? with
    | none => some .empty
    | some contents => (ConfigFile.read? contents).map .ofFile

/-- All layers in one. -/
def layer? (s : SettingSources) : Option Layer := do
  let values ← Flag.read? s.arguments
  let file ← s.fileLayer? values
  return (Layer.ofFlags values).atop ((Layer.ofVariables s.environment).atop file)

end SettingSources

/-- Loads the configuration and validates it. -/
def Config.load (s : SettingSources) : Except ConfigError Config :=
  match s.layer?.bind Layer.config? with
  | none => .error .unreadable
  | some c => c.validated

end TreeQuery
