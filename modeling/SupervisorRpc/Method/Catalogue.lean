import SupervisorRpc.Failure

/-! The methods that the daemon is known to have, with the number of their parameters, and the method
that an action on a target stands for. -/

namespace SupervisorRpc

namespace Method

/-- The known methods and how many parameters each takes. -/
def catalogue : List (Text × Nat) := [
  ("start_process", 1), ("stop_process", 1), ("restart_process", 1), ("monitor_process", 1),
  ("unmonitor_process", 1), ("status_process", 1),
  ("start_group", 1), ("stop_group", 1), ("restart_group", 1), ("monitor_group", 1),
  ("unmonitor_group", 1), ("status_group", 1),
  ("start_all", 0), ("stop_all", 0), ("restart_all", 0), ("monitor_all", 0), ("unmonitor_all", 0),
  ("status_all", 0),
  ("about", 0), ("reload", 0), ("quit", 0)]

/-- How many parameters a known method takes. -/
def arity? (name : Text) : Option Nat := catalogue.lookup name

/-- The name of the target that is every process. -/
def everything : Text := "all"

/-- The method and parameters of an action on a target: a process, a group, or everything.  Without
a target only the status has a meaning, which is that of everything. -/
def ofAction (action : Text) (target : Option Text) (group : Bool) :
    Except Failure (Text × List Text) :=
  match target.getD [] with
  | [] =>
    if action = text "status" then .ok ("status_all", []) else .error (.missingTarget action)
  | name =>
    if name = everything then .ok (action ++ text "_all", [])
    else .ok (action ++ text (if group then "_group" else "_process"), [name])

end Method

end SupervisorRpc
