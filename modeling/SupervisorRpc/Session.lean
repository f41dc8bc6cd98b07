import SupervisorRpc.Client
import SupervisorRpc.Telemetry

/-! Sessions: clients, calls, connections and telemetry in the order in which a program uses them.  The
state of a session is its client and its instruments; the instruments decide only which of them have
to be made, never what a call does. -/

namespace SupervisorRpc

namespace Session

/-- What one step leaves to the next. -/
structure State where
  home : Text
  client : Option Endpoint
  instruments : Instruments
deriving DecidableEq

/-- A session without a client yet, in a home directory. -/
def start (home : Text) : State := ⟨home, none, Instruments.empty⟩

/-- A step of a session. -/
inductive Step where
  /-- Makes the client that later steps use. -/
  | new (url : Option Text)
  | call (world : World) (clock : Clock) (name : Text) (params : List Param)
  | dispatch (world : World) (clock : Clock) (name : Text) (params : List Param)
  | connect (endpoint : EndpointRecord) (world : World)
  | setupTracer (service endpoint : Text)
  | setupMetrics (service endpoint : Text) (interval : Number)
  | getCounter (name description unit : Text)
  | getHistogram (name description unit : Text)
  | incrementCounter (name : Text) (amount : Number) (attributes : Json.Members)
  | recordLatency (name : Text) (value : Number) (attributes : Json.Members)
  /-- Enters a span, raises a fault inside if there is one, and leaves it. -/
  | span (name : Text) (attributes : Json.Members) (fault : Option Fault)

/-- What a step gives. -/
inductive Answer where
  | nothing
  | name (t : Text)
  | value (v : Json)
  | connection (c : Connection)

/-- The result of a step, what the world sees of it, and the state after it. -/
structure Report where
  result : Except Failure Answer
  events : List Event
  state : State

/-- Carries out an act that needs no state of its own. -/
def State.perform {α : Type} (s : State) (x : Act Unit α) (answer : α → Answer) : Report :=
  let outcome := x ()
  let (events, instruments) := s.instruments.events outcome.trace
  ⟨outcome.result.map answer, events, { s with instruments }⟩

/-- Ends a step with events and the instruments after them. -/
def State.done (s : State) (answer : Answer) (made : List Event × Instruments) : Report :=
  ⟨.ok answer, made.1, { s with instruments := made.2 }⟩

/-- Carries out a step. -/
def State.step (s : State) : Step → Report
  | .new url =>
    match Endpoint.parse s.home url with
    | .error e => ⟨.error (.endpoint e), [], s⟩
    | .ok e => ⟨.ok (.name e.label), [.activity (Client.created e)], { s with client := some e }⟩
  | .call world clock name params =>
    match s.client with
    | none => ⟨.error (.noClient "call"), [], s⟩
    | some e => s.perform (Client.call e world clock name params) .value
  | .dispatch world clock name params =>
    match s.client with
    | none => ⟨.error (.noClient name), [], s⟩
    | some e => s.perform (Client.dispatch e world clock name params) .value
  | .connect endpoint world => s.perform (endpoint.connect world) .connection
  | .setupTracer service endpoint =>
    s.done (.name service) (Telemetry.setupTracer service endpoint, s.instruments)
  | .setupMetrics service endpoint interval =>
    s.done (.name service) (Telemetry.setupMetrics service endpoint interval)
  | .getCounter name description unit =>
    s.done .nothing (s.instruments.needCounter name description unit)
  | .getHistogram name description unit =>
    s.done .nothing (s.instruments.needHistogram name description unit)
  | .incrementCounter name amount attributes =>
    s.done .nothing (s.instruments.eventsOf (.add name amount attributes))
  | .recordLatency name value attributes =>
    s.done .nothing (s.instruments.eventsOf (.record name value attributes))
  | .span name attributes fault =>
    s.perform (Act.span name attributes (Act.raise fault)) fun _ => .nothing

/-- Carries out steps in order; a failure of one does not keep the next from being carried out. -/
def State.run (s : State) : List Step → List Report
  | [] => []
  | step :: rest =>
    let report := s.step step
    report :: report.state.run rest

end Session

end SupervisorRpc
