import SupervisorRpc.Text.Case

/-! Method names.  A method is called by a snake_case name and goes by a PascalCase name on the wire;
a PascalCase name stands for itself. -/

namespace SupervisorRpc

namespace Method

/-- A segment of a name with its first letter in upper case. -/
def capitalized : Text → Text
  | [] => []
  | c :: rest => c.upper ++ rest

/-- `stop_group` as `StopGroup`: each segment is capitalized, and the underscores go. -/
def pascalCase (name : Text) : Text :=
  (Text.segments (point '_') name).flatMap capitalized

/-- The namespace that the daemon's methods live in. -/
def wireNamespace : Text := "API."

/-- The name of a method on the wire. -/
def wireName (name : Text) : Text := wireNamespace ++ pascalCase name

end Method

end SupervisorRpc
