import SupervisorRpc.Dial
import SupervisorRpc.Proofs.Acts

/-! What opening a connection comes to: one equation when it succeeds and one when the world holds a
fault for it, for endpoints of both kinds. -/

namespace SupervisorRpc

namespace Endpoint

/-- Dials an endpoint. -/
def dial (e : Endpoint) (w : World) : Act Unit Unit :=
  match e.address with
  | .tcp _ _ => e.record.dialTcp w
  | .unix _ => e.record.dialUnix w

/-- The activities of dialing an endpoint. -/
def dialTrace (e : Endpoint) : List Activity :=
  match e.address with
  | .tcp host port => [.dialTcp (some host) (some port)]
  | .unix path => [.openUnix, .dialUnix (some path)]

/-- A fault of dialing is followed by closing the socket. -/
def cleansUp (e : Endpoint) (f : Fault) : Bool :=
  match e.address with
  | .tcp _ _ => false
  | .unix _ => (Failure.fault f).isOS

/-- The activities of cleaning up after a fault of dialing. -/
def cleanupTrace (e : Endpoint) (f : Fault) : List Activity :=
  if e.cleansUp f then [.closeSocket] else []

/-- The fault that leaves dialing when the world holds `f` for it: a fault of cleaning up takes its
place. -/
def dialFault (e : Endpoint) (w : World) (f : Fault) : Fault :=
  if e.cleansUp f then w.socketFault.getD f else f

theorem dialFault_of_none {w : World} (h : w.socketFault = none) (e : Endpoint) (f : Fault) :
    e.dialFault w f = f := by
  rw [dialFault, h]
  split <;> rfl

/-- The log line of an open connection. -/
def connected (e : Endpoint) : Activity :=
  .log .debug EndpointRecord.logger (text "Connected to " ++ e.label)

theorem connect_eq (e : Endpoint) (w : World) :
    e.record.connect w = (do
      e.dial w
      Act.perform e.connected
      return w.opened) := by
  have hlabel := e.label?_record
  have hschemes : unixScheme ≠ tcpScheme := by decide
  rw [EndpointRecord.connect, hlabel, dial]
  obtain ⟨url, address⟩ := e
  cases address with
  | tcp host port => exact if_pos rfl
  | unix path => exact (if_neg hschemes).trans (if_pos rfl)

variable {e : Endpoint} {w : World}

theorem dial_run (h : w.connectFault = none) : e.dial w () = ⟨.ok (), (), e.dialTrace⟩ := by
  obtain ⟨url, address⟩ := e
  cases address with
  | tcp host port =>
    simp [dial, EndpointRecord.dialTcp, h, dialTrace, record, host?, port?, Outcome.after]
  | unix path =>
    simp [dial, EndpointRecord.dialUnix, Act.onOSFailure, h, dialTrace, record, path?,
      Outcome.after]

theorem dial_run_fault {f : Fault} (h : w.connectFault = some f) :
    e.dial w () = ⟨.error (.fault (e.dialFault w f)), (), e.dialTrace ++ e.cleanupTrace f⟩ := by
  obtain ⟨url, address⟩ := e
  cases address with
  | tcp host port =>
    simp [dial, EndpointRecord.dialTcp, h, dialTrace, record, host?, port?, Outcome.after,
      dialFault, cleanupTrace, cleansUp]
  | unix path =>
    cases hOS : (Failure.fault f).isOS <;> cases hsocket : w.socketFault <;>
      simp [dial, EndpointRecord.dialUnix, Act.onOSFailure, h, dialTrace, record, path?,
        Outcome.after, dialFault, cleanupTrace, cleansUp, hOS, hsocket]

theorem connect_run (h : w.connectFault = none) :
    e.record.connect w () = ⟨.ok w.opened, (), e.dialTrace ++ [e.connected]⟩ := by
  rw [connect_eq, Act.bind_run_ok (dial_run h)]
  simp [Outcome.after]

theorem connect_run_fault {f : Fault} (h : w.connectFault = some f) :
    e.record.connect w () =
      ⟨.error (.fault (e.dialFault w f)), (), e.dialTrace ++ e.cleanupTrace f⟩ := by
  rw [connect_eq, Act.bind_run_error (dial_run_fault h)]

end Endpoint

end SupervisorRpc
