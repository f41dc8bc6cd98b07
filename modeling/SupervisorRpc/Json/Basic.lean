import SupervisorRpc.Number.Basic

/-! JSON values.  An object keeps its members in order; a number keeps whether it is an integer. -/

namespace SupervisorRpc

/-- A JSON value. -/
inductive Json where
  | null
  | bool (b : Bool)
  | number (n : Number)
  | string (t : Text)
  | array (items : List Json)
  | object (members : List (Text × Json))

namespace Json

/-- The most digits of an integer that is read or written. -/
def digitLimit : Nat := 4300

instance : Inhabited Json := ⟨.null⟩

/-- The members of an object by key. -/
abbrev Members := List (Text × Json)

/-- The value of a key, if it has one. -/
def Members.get? (members : Members) (key : Text) : Option Json := members.lookup key

/-- Gives a key a value.  A new key comes last; a known key keeps its place. -/
def Members.put (members : Members) (key : Text) (value : Json) : Members :=
  if members.any (·.1 = key) then
    members.map fun m => if m.1 = key then (key, value) else m
  else members ++ [(key, value)]

/-- The members that a list of members in writing order stands for: the last value of each key, at
the place of the first. -/
def Members.ofList (written : List (Text × Json)) : Members :=
  written.foldl (fun members m => Members.put members m.1 m.2) []

/-- A value counts as nothing when it is null, false, zero, or empty. -/
def isNothing : Json → Bool
  | null => true
  | bool b => !b
  | number n => n.isZero
  | string t => t.isEmpty
  | array items => items.isEmpty
  | object members => members.isEmpty

end Json

end SupervisorRpc
