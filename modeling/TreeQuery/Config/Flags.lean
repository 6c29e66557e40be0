/-
  TreeQuery.Config.Flags

  Flags of a command line. Every flag has a value, either after `=` or as the next
  argument, which must not look like a flag itself. A flag can be given once, and
  there are no other arguments; a lone `--` may stand at the end.
-/

import TreeQuery.Text.Basic

namespace TreeQuery

/-- The settings that can be given on a command line. -/
inductive Flag where
  | configPath
  | logFilter
  | logFormat
  | anchor
  deriving DecidableEq, Repr

namespace Flag

/-- The name of a flag, with its dashes. -/
def name : Flag → String
  | configPath => "--config-path"
  | logFilter => "--log-filter"
  | logFormat => "--log-format"
  | anchor => "--anchor-capture"

def all : List Flag := [configPath, logFilter, logFormat, anchor]

def ofName? (text : Text) : Option Flag := all.find? (·.name.toList == text)

/-- Flags with their values. -/
abbrev Values := List (Flag × Text)

/-- Whether an argument can be the value of the flag before it. -/
def isValue : Text → Bool
  | ['-'] => true
  | '-' :: _ => false
  | _ => true

/-- Adds a flag that must not have been given. -/
def add (flag : Flag) (value : Text) (values : Values) : Option Values :=
  if values.any (·.1 == flag) then none else some ((flag, value) :: values)

/-- Reads the arguments of a command line. -/
def read? : List Text → Option Values
  | [] => some []
  | [['-', '-']] => some []
  | [argument] =>
    match argument.dropWhile (· != '=') with
    | '=' :: value => (ofName? (argument.takeWhile (· != '='))).bind (add · value [])
    | _ => none
  | argument :: next :: rest =>
    match argument.dropWhile (· != '=') with
    | '=' :: value => do
      add (← ofName? (argument.takeWhile (· != '='))) value (← read? (next :: rest))
    | _ => do
      let flag ← ofName? argument
      if isValue next then add flag next (← read? rest) else none

/-- The value that a flag was given. -/
def value? (values : Values) (flag : Flag) : Option Text :=
  (values.find? (·.1 == flag)).map (·.2)

end Flag
end TreeQuery
