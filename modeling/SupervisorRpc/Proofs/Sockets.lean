import SupervisorRpc.Proofs.Client.Metrics
import SupervisorRpc.Proofs.Client.Trace
import SupervisorRpc.Proofs.Session.Runs
import SupervisorRpc.Proofs.Telemetry

/-! The sockets of a session.  A call or a dispatch closes the sockets that it opens, with one exception:
the socket of a path stays open if connecting it raises a fault that is none of the operating system. -/

namespace SupervisorRpc

namespace Activity

/-- A socket comes into being: that of a path before it is connected, that of a host and port by being
connected. -/
def opensSocket (w : World) : Activity → Bool
  | .openUnix => true
  | .dialTcp _ _ => w.connectFault.isNone
  | _ => false

def isOpenUnix : Activity → Bool
  | .openUnix => true
  | _ => false

def isCloseSocket : Activity → Bool
  | .closeSocket => true
  | _ => false

/-- The opening or the closing of a socket. -/
def isSocket : Activity → Bool
  | .openUnix | .dialTcp _ _ | .closeSocket => true
  | _ => false

variable {a : Activity}

theorem isSocket_of_isNote (h : a.isNote = true) : a.isSocket = false := by
  cases a <;> first | rfl | cases h

theorem isSocket_of_isTracing (h : a.isTracing = true) : a.isSocket = false := by
  cases a <;> first | rfl | cases h

theorem isSocket_of_opensSocket {w : World} (h : a.opensSocket w = true) : a.isSocket = true := by
  cases a <;> first | rfl | cases h

theorem isSocket_of_isOpenUnix (h : a.isOpenUnix = true) : a.isSocket = true := by
  cases a <;> first | rfl | cases h

theorem isSocket_of_isCloseSocket (h : a.isCloseSocket = true) : a.isSocket = true := by
  cases a <;> first | rfl | cases h

end Activity

/-- What activities do with sockets. -/
def socketsOf (trace : List Activity) : List Activity := trace.filter Activity.isSocket

theorem socketsOf_append (first second : List Activity) :
    socketsOf (first ++ second) = socketsOf first ++ socketsOf second :=
  List.filter_append first second

theorem socketsOf_eq_nil {trace : List Activity} (h : ∀ a ∈ trace, a.isSocket = false) :
    socketsOf trace = [] := by
  rw [socketsOf, List.filter_eq_nil_iff]
  intro a ha
  simp [h a ha]

theorem countP_socketsOf {p : Activity → Bool} (h : ∀ {a}, p a = true → a.isSocket = true)
    (trace : List Activity) : (socketsOf trace).countP p = trace.countP p :=
  countP_filter_of h trace

namespace Endpoint

/-- The activity that opens the socket of an endpoint. -/
def opening (e : Endpoint) : Activity :=
  match e.address with
  | .tcp host port => .dialTcp (some host) (some port)
  | .unix _ => .openUnix

/-- What a call to an endpoint does with sockets. -/
def socketTrace (e : Endpoint) (w : World) : List Activity :=
  e.opening ::
    match w.connectFault with
    | none => [.closeSocket]
    | some f => e.cleanupTrace f

theorem socketsOf_dialTrace (e : Endpoint) : socketsOf e.dialTrace = [e.opening] := by
  obtain ⟨url, address⟩ := e
  cases address <;> rfl

theorem socketsOf_cleanupTrace (e : Endpoint) (f : Fault) :
    socketsOf (e.cleanupTrace f) = e.cleanupTrace f := by
  unfold cleanupTrace
  split <;> rfl

end Endpoint

namespace Client

variable {clock : Clock} {method : Text} {params : List Param}

theorem socketsOf_osNotes (what : Text) (ended : Except Failure Json) :
    socketsOf (Act.osNotes (failureTrace method what) ended) = [] :=
  socketsOf_eq_nil fun a ha => Activity.isSocket_of_isNote (isNote_osNotes what ended a ha)

theorem Exchanged.socketsOf_trace {room : Nat} {sendFault : Option Fault} {answer : LineEnd}
    {ended : Except Failure Json} {trace : List Activity}
    (h : Exchanged room method params clock sendFault answer ended trace) : socketsOf trace = [] := by
  apply socketsOf_eq_nil
  intro a ha
  rcases h.isNote_or_send a ha with hnote | ⟨line, rfl⟩
  · exact Activity.isSocket_of_isNote hnote
  · rfl

theorem socketsOf_closeTrace (c : Connection) : socketsOf c.closeTrace = [.closeSocket] := by
  unfold Connection.closeTrace
  split <;> rfl

theorem inSpan_sockets (endpoint : Endpoint) (world : World) (clock : Clock) (method : Text)
    (params : List Param) :
    socketsOf (inSpan endpoint world clock method params ()).trace = endpoint.socketTrace world := by
  cases hconnect : world.connectFault with
  | some f =>
    rw [inSpan_run_fault hconnect]
    dsimp only
    rw [socketsOf_append, socketsOf_append, socketsOf_osNotes, endpoint.socketsOf_dialTrace,
      endpoint.socketsOf_cleanupTrace, Endpoint.socketTrace, hconnect, List.append_nil]
    rfl
  | none =>
    obtain ⟨ended, trace, hexchanged, hrun⟩ :=
      inSpan_exchanged endpoint clock method params hconnect
    have hconnected : socketsOf [endpoint.connected] = [] := rfl
    rw [hrun]
    dsimp only
    rw [socketsOf_append, socketsOf_append, endpoint.socketsOf_dialTrace, hconnected,
      socketsOf_append, socketsOf_append, hexchanged.socketsOf_trace, socketsOf_osNotes,
      socketsOf_closeTrace, Endpoint.socketTrace, hconnect]
    rfl

/-- The sockets of a call, whatever its name, parameters and clock are. -/
theorem call_sockets (endpoint : Endpoint) (world : World) (clock : Clock) (name : Text)
    (params : List Param) :
    socketsOf (call endpoint world clock name params ()).trace = endpoint.socketTrace world := by
  have hinner := inSpan_sockets endpoint world clock (Method.wireName name) params
  rw [socketsOf, call_filter endpoint world clock name params Activity.isSocket_of_isTracing]
  exact hinner

end Client

/-- As many sockets are closed as are opened, where `count` counts activities; but the sockets of paths
stay open where connecting meets a fault that is none of the operating system. -/
def Released (world : World) (count : (Activity → Bool) → Nat) : Prop :=
  count (·.opensSocket world) = count Activity.isCloseSocket +
    if world.connectFault.any (!·.isOS) then count Activity.isOpenUnix else 0

theorem released_of_socketsOf {world : World} {trace : List Activity}
    (h : Released world (socketsOf trace).countP) : Released world trace.countP := by
  rw [Released, countP_socketsOf Activity.isSocket_of_opensSocket,
    countP_socketsOf Activity.isSocket_of_isCloseSocket,
    countP_socketsOf Activity.isSocket_of_isOpenUnix] at h
  exact h

theorem Endpoint.released_socketTrace (e : Endpoint) (w : World) :
    Released w (e.socketTrace w).countP := by
  obtain ⟨url, address⟩ := e
  rw [Released, socketTrace, opening]
  -- Only a socket of a path is closed after a fault of connecting, and only after one of the
  -- operating system; one of a host and port does not come into being then.
  cases hconnect : w.connectFault with
  | none =>
    cases address <;>
      simp [Activity.opensSocket, Activity.isCloseSocket, hconnect]
  | some f =>
    cases address with
    | tcp host port =>
      simp [cleanupTrace, cleansUp, Activity.opensSocket, Activity.isCloseSocket,
        Activity.isOpenUnix, hconnect]
    | unix path =>
      cases hOS : f.isOS <;>
        simp [cleanupTrace, cleansUp, Fault.isOS_failure, Activity.opensSocket,
          Activity.isCloseSocket, Activity.isOpenUnix, hOS]

theorem Client.call_released (endpoint : Endpoint) (world : World) (clock : Clock) (name : Text)
    (params : List Param) : Released world (call endpoint world clock name params ()).trace.countP := by
  apply released_of_socketsOf
  rw [call_sockets]
  exact endpoint.released_socketTrace world

theorem Client.dispatch_released (endpoint : Endpoint) (world : World) (clock : Clock) (name : Text)
    (params : List Param) :
    Released world (dispatch endpoint world clock name params ()).trace.countP := by
  rcases dispatch_cases endpoint world clock name params with ⟨e, hfail⟩ | ⟨name', params', hcall⟩
  · rw [hfail]
    simp [Released]
  · rw [hcall]
    exact call_released endpoint world clock name' params'

namespace Session

/-- The world that a call or a dispatch meets. -/
def Step.world? : Step → Option World
  | .call world _ _ _ | .dispatch world _ _ _ => some world
  | _ => none

/-- The events of a report that are activities with a property, counted. -/
def Report.count (report : Report) (p : Activity → Bool) : Nat :=
  report.events.countP (Event.holds p)

theorem released_perform {α : Type} (s : State) {x : Act Unit α} (answer : α → Answer) {world : World}
    (h : Released world (x ()).trace.countP) : Released world (s.perform x answer).count := by
  have hcount : (s.perform x answer).count = (x ()).trace.countP :=
    funext fun p => s.instruments.events_countP p (x ()).trace
  rw [hcount]
  exact h

theorem step_released (s : State) {step : Step} {world : World} (h : step.world? = some world) :
    Released world (s.step step).count := by
  cases step with
  | call world' clock name params =>
    obtain rfl : world' = world := Option.some.inj h
    rw [State.step]
    cases s.client with
    | none => simp [Released, Report.count]
    | some e => exact released_perform s .value (Client.call_released e world' clock name params)
  | dispatch world' clock name params =>
    obtain rfl : world' = world := Option.some.inj h
    rw [State.step]
    cases s.client with
    | none => simp [Released, Report.count]
    | some e => exact released_perform s .value (Client.dispatch_released e world' clock name params)
  | _ => cases h

/-- In any session, a call or a dispatch closes as many sockets as it opens, whatever faults it meets, but
for one: the socket of a path stays open where connecting it meets a fault that is none of the operating
system. -/
theorem run_released (home : Text) (before : List Step) {step : Step} (after : List Step)
    {world : World} (hstep : step.world? = some world) :
    ∃ report, ((start home).run (before ++ step :: after))[before.length]? = some report ∧
      Released world report.count :=
  ⟨_, run_getElem? (start home) before step after, step_released _ hstep⟩

/-- A dispatch whose connection is opened, and whose reader and socket both fail to close. -/
theorem run_released_closing :
    let f : Fault := ⟨.os, .numbered 5 "Input/output error"⟩
    let world : World := ⟨none, none, [], some ⟨.value, .none⟩, some f, 984⟩
    let step : Step := .dispatch world [] "about" []
    ∃ report, ((start "/").run [.new (some "/s"), step, .new none])[1]? = some report ∧
      Released world report.count := by
  intro f world step
  exact run_released "/" [.new (some "/s")] [.new none] rfl

/-- A path with half of a surrogate pair in it, which the operating system is never asked about: the
socket that was opened for it is not closed. -/
theorem run_unreleased :
    let path : Text := text "/tmp/" ++ [CodePoint.ofNat 0xD800] ++ text "x"
    let message : Text :=
      "'utf-8' codec can't encode character '\\ud800' in position 5: surrogates not allowed"
    let world : World := ⟨some ⟨.encoding, .message message⟩, none, [], none, none, 984⟩
    ∃ made report, (start "/").run [.new (some path), .call world [] "status" []] = [made, report] ∧
      made.result = .ok (.name path) ∧ report.result = .error (.fault ⟨.encoding, .message message⟩) ∧
      report.count (·.opensSocket world) = 1 ∧ report.count Activity.isCloseSocket = 0 := by
  intro path message world
  exact ⟨_, _, rfl, by rfl, by rfl, by decide +kernel, by decide +kernel⟩

end Session

end SupervisorRpc
