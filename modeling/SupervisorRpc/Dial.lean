import SupervisorRpc.Connection.Basic

/-! Opening connections.  An `EndpointRecord` is an endpoint as a caller may put it together by hand,
so its parts may be missing or not fit its scheme; every `Endpoint` has a record whose parts fit. -/

namespace SupervisorRpc

/-- An endpoint as separate parts. -/
structure EndpointRecord where
  url : Text
  scheme : Text
  host : Option Text
  port : Option Nat
  path : Option Text
deriving DecidableEq

/-- The parts of an endpoint. -/
def Endpoint.record (e : Endpoint) : EndpointRecord :=
  ⟨e.url, e.scheme, e.host?, e.port?, e.path?⟩

/-- How messages name an endpoint; without a path there is no name for one that is not TCP. -/
def EndpointRecord.label? (r : EndpointRecord) : Option Text :=
  if r.scheme = Endpoint.tcpScheme then
    some (text "tcp://" ++ r.host.getD "None" ++ text ":" ++
      (r.port.map Text.ofNat).getD "None")
  else r.path

theorem Endpoint.label?_record (e : Endpoint) : e.record.label? = some e.label := by
  cases e with
  | mk url address =>
    cases address with
    | tcp host port =>
      simp [Endpoint.record, EndpointRecord.label?, Endpoint.label, Endpoint.scheme,
        Endpoint.host?, Endpoint.port?]
    | unix path =>
      have h : Endpoint.unixScheme ≠ Endpoint.tcpScheme := by decide
      simp [Endpoint.record, EndpointRecord.label?, Endpoint.label, Endpoint.scheme,
        Endpoint.path?, h]

/-- The world as one connection meets it: its faults, what the peer sends, and how much of the stack
is left to those who write and read over it. -/
structure World where
  connectFault : Option Fault
  sendFault : Option Fault
  incoming : List Arrival
  readerFault : Option Fault
  socketFault : Option Fault
  /-- How many arrays and objects may be inside one another in a parameter of a request. -/
  room : Nat := Json.usualLimit - 1
deriving DecidableEq

namespace World

/-- A connection that was just opened. -/
def opened (w : World) : Connection where
  incoming := ⟨[], w.incoming⟩
  sendFault := w.sendFault
  readerFault := w.readerFault
  socketFault := w.socketFault
  closed := false

/-- How many arrays and objects may be inside one another in a response.  A request may have one more,
as it is written higher up the stack than a response is read, and so each of its parameters, which
stand in an array in an object, one less. -/
abbrev limit (w : World) : Nat := w.room + 1

end World

namespace EndpointRecord

def logger : Text := "gonit_api.transport.transport_factory"

/-- Dials a host and port. -/
def dialTcp (r : EndpointRecord) (w : World) : Act Unit Unit := do
  Act.perform (.dialTcp r.host r.port)
  Act.raise w.connectFault

/-- Dials a socket path.  The socket is closed again if the operating system refuses; a fault of that
closing takes the place of the refusal. -/
def dialUnix (r : EndpointRecord) (w : World) : Act Unit Unit := do
  Act.perform .openUnix
  Act.onOSFailure
    (do Act.perform (.dialUnix r.path); Act.raise w.connectFault)
    fun _ => do Act.perform .closeSocket; Act.raise w.socketFault

/-- Opens a connection to an endpoint. -/
def connect (r : EndpointRecord) (w : World) : Act Unit Connection := do
  if r.scheme = Endpoint.tcpScheme then r.dialTcp w
  else if r.scheme = Endpoint.unixScheme then r.dialUnix w
  else Act.fail (.unknownTransport r.scheme)
  match r.label? with
  | none => Act.fail .unnamedEndpoint
  | some label => Act.log .debug logger (text "Connected to " ++ label)
  return w.opened

end EndpointRecord

end SupervisorRpc
