import SupervisorRpc.Telemetry

/-! The log as it is shown: lines from a threshold on, each with the time, the logger and the level
before its message. -/

namespace SupervisorRpc

/-- A line of the log. -/
structure LogLine where
  level : Level
  logger : Text
  message : Text
deriving DecidableEq

/-- A line as it is shown at a time. -/
def LogLine.render (time : Text) (l : LogLine) : Text :=
  Text.join (text " - ") [time, l.logger, l.level.name, l.message] ++ text "\n"

/-- The log line that an event writes, if it does. -/
def Event.logLine? : Event → Option LogLine
  | .activity (.log level logger message) => some ⟨level, logger, message⟩
  | _ => none

namespace Log

/-- The names of thresholds and the least weight of a line that each shows. -/
def thresholds : List (Text × Nat) := [
  ("CRITICAL", 50), ("FATAL", 50), ("ERROR", 40), ("WARN", 30), ("WARNING", 30), ("INFO", 20),
  ("DEBUG", 10), ("NOTSET", 0)]

/-- The threshold with a name. -/
def threshold? (name : Text) : Option Nat := thresholds.lookup name

/-- The lines that are shown. -/
def shown (threshold : Nat) (events : List Event) : List LogLine :=
  (events.filterMap Event.logLine?).filter fun l => threshold ≤ l.level.weight

end Log

end SupervisorRpc
