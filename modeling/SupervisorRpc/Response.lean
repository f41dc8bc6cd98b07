import SupervisorRpc.Activity

/-! Reading a response.  A response is a JSON object on one line; it reports an error, or gives a
result.  Every reading counts as a success or as an error of some type. -/

namespace SupervisorRpc

/-- What goes wrong in a call, as it is counted. -/
inductive ErrorType where
  | io
  | parse
  | rpc
deriving DecidableEq

def ErrorType.name : ErrorType → Text
  | io => "io_error"
  | parse => "parse_error"
  | rpc => "rpc_error"

namespace Metric

def requests : Text := "rpc.client.requests"
def success : Text := "rpc.client.success"
def errors : Text := "rpc.client.errors"
def latency : Text := "rpc.client.latency"

variable {σ : Type}

/-- What a measurement is about. -/
def attributes (method : Text) : Json.Members := [("method", .string method)]

/-- Counts one more for a method. -/
def count (counter method : Text) : Act σ Unit :=
  Act.perform (.add counter (.int 1) (attributes method))

/-- Counts an error for a method. -/
def countError (type : ErrorType) (method : Text) : Act σ Unit :=
  Act.perform (.add errors (.int 1) (("type", .string type.name) :: attributes method))

end Metric

namespace Response

def logger : Text := "gonit_api.client"

/-- How much of a text a log line shows. -/
def shown (t : Text) : Text := t.take 200

/-- The value of a response line, with at most `limit` arrays and objects inside one another. -/
def decode (limit : Nat) (raw : List UInt8) : Except Unreadable Json :=
  match Utf8.decode raw with
  | .error m => .error (.bytes m)
  | .ok line =>
    match Json.decode line limit with
    | .error flaw => .error (.json flaw)
    | .ok value => .ok value

variable {σ : Type}

/-- Counts the error and fails with it. -/
def refuse {α : Type} (type : ErrorType) (method : Text) (e : RpcError) : Act σ α := do
  Metric.countError type method
  Act.fail (.rpc e)

/-- The result that a response gives to a call of `method`, where at most `limit` arrays and objects
may be inside one another. -/
def read (limit : Nat) (method : Text) (raw : List UInt8) : Act σ Json := do
  let line := Utf8.decodeReplacing raw
  match decode limit raw with
  | .error (.json (.depth nesting)) => Act.fail (.tooDeep nesting)
  | .error cause =>
    Act.log .error logger (text "Unparseable response to " ++ method ++ text ": " ++ shown line)
    refuse .parse method (.unreadable line cause)
  | .ok (.object members) =>
    let error := (Json.Members.get? members "error").getD .null
    if error.isNothing then
      Metric.count Metric.success method
      return (Json.Members.get? members "result").getD .null
    else
      Act.log .error logger
        (text "RPC call " ++ method ++ text " failed: " ++ RpcError.describe error)
      refuse .rpc method (.reported line error)
  | .ok _ => refuse .parse method (.notObject line)

/-- The result that a response gives within the usual limit. -/
def result (method : Text) (raw : List UInt8) : Act σ Json :=
  read Json.usualLimit method raw

end Response

end SupervisorRpc
