/-
  TreeQuery.Telemetry.Basic

  The log of a process. A subscriber takes the log records that a filter lets through.
  One subscriber can be installed in a process, and it stays: once the engine has
  installed its own, it does not look at configurations any more.
-/

import TreeQuery.Config.Basic
import TreeQuery.Telemetry.Filter

namespace TreeQuery

/-- Why no subscriber is installed. -/
inductive TelemetryError where
  | invalidFilter
  /-- The process has another subscriber. -/
  | occupied
  deriving DecidableEq, Repr

/-- What takes the log records of a process. -/
inductive Telemetry where
  | silent
  /-- The engine has installed its subscriber. -/
  | installed
  /-- Another subscriber was there before. -/
  | foreign
  deriving DecidableEq, Repr

namespace Telemetry

/-- The handle of an installed subscriber as a record. -/
def handle : String := "TelemetryHandle"

/-- Whether a subscriber can be built for a configuration. -/
def build (c : Config) : Except TelemetryError Unit :=
  if LogFilter.isValid c.logFilter.toList then .ok () else .error .invalidFilter

/-- Installs a subscriber, unless the engine has done so before. -/
def install (t : Telemetry) (c : Config) : Except TelemetryError Unit × Telemetry :=
  match t with
  | installed => (.ok (), installed)
  | _ =>
    match build c with
    | .error e => (.error e, t)
    | .ok () => if t = foreign then (.error .occupied, t) else (.ok (), installed)

end Telemetry
end TreeQuery
