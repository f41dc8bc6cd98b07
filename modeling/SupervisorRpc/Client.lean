import SupervisorRpc.Dial
import SupervisorRpc.Method.Catalogue
import SupervisorRpc.Method.Name
import SupervisorRpc.Response

/-! The client.  A call opens a connection of its own, sends one request line, receives one response
line and closes the connection, all inside a span.  Methods are called by name, or as attributes of
the client. -/

namespace SupervisorRpc

/-- A parameter of a call: a JSON value, or something that JSON cannot hold. -/
inductive Param where
  | value (v : Json)
  | foreign

/-- What the type of a parameter is called. -/
def Param.typeName : Param → Text
  | value .null => "NoneType"
  | value (.bool _) => "bool"
  | value (.number (.int _)) => "int"
  | value (.number (.float _)) => "float"
  | value (.string _) => "str"
  | value (.array _) => "list"
  | value (.object _) => "dict"
  | foreign => "object"

/-- The value of a parameter that can be written where at most `room` arrays and objects may be inside
one another. -/
def Param.writable (room : Nat) : Param → Except Failure Json
  | value v =>
    match v.excess? room with
    | some excess => .error (.unwritable excess)
    | none => .ok v
  | foreign => .error .unserializable

/-- The readings of a clock, in order; it reads `0.0` when they are used up.  Integers among them are
readings of a trial run; the clock of the system is a `SystemClock`. -/
abbrev Clock := List Number

/-- The readings of the clock of the system, which are double-precision numbers. -/
abbrev SystemClock := List Float

/-- The clock of the system as a clock. -/
def SystemClock.readings (clock : SystemClock) : Clock := clock.map .float

instance : Coe SystemClock Clock := ⟨SystemClock.readings⟩

/-- The milliseconds between the first two readings. -/
def Clock.elapsed? (clock : Clock) : Option Number :=
  let reading (i : Nat) : Number := clock[i]?.getD (.float 0.0)
  ((reading 1).sub? (reading 0)).map Number.thousandfold

namespace Client

def logger : Text := Response.logger

/-- The log line of a new client. -/
def created (endpoint : Endpoint) : Activity :=
  .log .debug logger (text "gonit RPC client for " ++ endpoint.label)

/-- The request line of a call; or the failure of the first parameter that cannot be written where at
most `room` arrays and objects may be inside one another in a parameter. -/
def requestLine (room : Nat) (method : Text) (params : List Param) : Except Failure Text := do
  let values ← params.mapM (Param.writable room)
  return Json.encode Json.compact (.object [("method", .string method), ("params", .array values)])

/-- Sends the request over a connection and receives the result. -/
def exchange (room : Nat) (method : Text) (params : List Param) (clock : Clock) :
    Act Connection Json := do
  match requestLine room method params with
  | .error e => Act.fail e
  | .ok request =>
    Metric.count Metric.requests method
    Act.log .debug logger (text "Sending request: " ++ Response.shown request)
    Connection.writeLine request
    let line ← Connection.readLine
    let elapsed ← Act.require clock.elapsed? .clockRange
    Act.perform (.record Metric.latency elapsed (Metric.attributes method))
    let shown ← Act.require elapsed.toCents? .clockRange
    Act.log .debug logger (text "Received response, latency: " ++ shown ++ text "ms")
    Response.read (room + 1) method line

/-- Calls a method of the daemon at `endpoint`. -/
def call (endpoint : Endpoint) (world : World) (clock : Clock) (name : Text)
    (params : List Param) : Act Unit Json :=
  let method := Method.wireName name
  let server := endpoint.label
  let noteFailure {σ : Type} (what : Text) (e : Failure) : Act σ Unit := do
    Act.log .error logger (what ++ text ": " ++ e.message)
    Metric.countError .io method
  Act.span (text "rpc.client " ++ method)
    [("rpc.method", .string method), ("server.address", .string server)]
    (Act.within
      (Act.onOSFailure (endpoint.record.connect world)
        (noteFailure (text "Failed to connect to " ++ server)))
      (Act.ensuring
        (Act.onOSFailure (exchange world.room method params clock)
          (noteFailure (text "I/O error calling " ++ method ++ text " on " ++ server)))
        Connection.close))

/-- Calls `name` on `params` as an attribute of the client: the endpoint and names that begin with an
underscore are no methods, `call` takes the method as its first parameter, known methods check the
number of their parameters, and any other name is a method of the daemon.  The attributes that the
client keeps for itself (`_connect`, `_parse_response`, `__init__`) are not for callers and are left
out, so that every name with an underscore in front is missing here. -/
def dispatch (endpoint : Endpoint) (world : World) (clock : Clock) (name : Text)
    (params : List Param) : Act Unit Json :=
  if name.head? = some (point '_') then Act.fail (.noSuchMethod name)
  else if name = text "endpoint" then Act.fail .endpointCalled
  else if name = text "call" then
    match params with
    | [] => Act.fail (.arity ⟨"call", 1, 0⟩)
    | .value (.string method) :: rest => call endpoint world clock method rest
    | other :: _ => Act.fail (.nameNotText other.typeName)
  else
    match Method.arity? name with
    | some arity =>
      if params.length = arity then call endpoint world clock name params
      else Act.fail (.arity ⟨name, arity, params.length⟩)
    | none => call endpoint world clock name params

end Client

end SupervisorRpc
