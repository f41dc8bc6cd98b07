import SupervisorRpc.Proofs.Client.Metrics

/-! What closing does to the outcome of a call.  A fault of closing takes the place of whatever the call
was about to give, result or error, after that result or error has been counted. -/

namespace SupervisorRpc

/-- The world without its faults of closing. -/
def World.closable (w : World) : World := { w with readerFault := none, socketFault := none }

namespace Endpoint

variable {e : Endpoint} {w : World}

/-- The fault of closing that leaves a call: of a connection, the socket's or else the reader's; of a
socket that could not be connected, the socket's, if it is closed at all. -/
def closingFault? (e : Endpoint) (w : World) : Option Fault :=
  match w.connectFault with
  | none => w.opened.closeFault?
  | some f => if e.cleansUp f then w.socketFault else none

theorem closingFault?_of_none (h : w.connectFault = none) :
    e.closingFault? w = w.opened.closeFault? := by
  rw [closingFault?, h]

theorem dialFault_eq {f : Fault} (h : w.connectFault = some f) :
    e.dialFault w f = (e.closingFault? w).getD f := by
  rw [dialFault, closingFault?, h]
  dsimp only
  split <;> rfl

end Endpoint

variable {method : Text} {params : List Param} {clock : Clock} {ended : Except Failure Json}
  {trace : List Activity}

theorem Response.Reading.additions_success {limit : Nat} {raw : List UInt8}
    (h : Reading limit method raw ended trace) :
    additions Metric.success trace = ended.isOk.toNat := by
  have hse := Metric.success_ne_errors
  cases h <;> simp [hse.symm, Except.isOk, Except.toBool]

namespace Client

/-- An exchange counts a success exactly if it ends in a result. -/
theorem Exchanged.additions_success {room : Nat} {sendFault : Option Fault} {answer : LineEnd}
    (h : Exchanged room method params clock sendFault answer ended trace) :
    additions Metric.success trace = ended.isOk.toNat := by
  have hrs := Metric.requests_ne_success
  have hask : ∀ request, additions Metric.success (askTrace method request) = 0 := by
    simp [askTrace, hrs]
  have hsend : ∀ request, additions Metric.success (sendTrace method request) = 0 := by
    simp [sendTrace, additions_append, hask]
  cases h with
  | unwritten _ => rfl
  | unsent _ _ => exact hask _
  | unanswered _ _ _ => exact hsend _
  | untimed _ _ _ _ => exact hsend _
  | untold _ _ _ _ _ => simp [additions_append, hsend, Except.isOk, Except.toBool]
  | answered _ _ _ _ _ =>
    rw [additions_append, (Response.reading (room + 1) method _).additions_success]
    simp [additions_append, hsend, told]

theorem additions_success_osNotes (what : Text) (ended : Except Failure Json) :
    additions Metric.success (Act.osNotes (failureTrace method what) ended) = 0 := by
  have hse := Metric.success_ne_errors
  cases ended with
  | ok value => rfl
  | error e =>
    rw [Act.osNotes]
    split <;> simp [failureTrace, hse.symm]

/-- A call over a connection ends as in a world where closing raises nothing, unless closing raises a
fault; it counts a success exactly if it ends in a result there. -/
theorem inSpan_closing (endpoint : Endpoint) (world : World) (clock : Clock) (method : Text)
    (params : List Param) :
    let outcome := inSpan endpoint world clock method params ()
    let settled := inSpan endpoint world.closable clock method params ()
    outcome.result = (endpoint.closingFault? world).elim settled.result (.error <| .fault ·) ∧
      additions Metric.success outcome.trace = settled.result.isOk.toNat := by
  intro outcome settled
  cases hconnect : world.connectFault with
  | some f =>
    have hconnect' : world.closable.connectFault = some f := hconnect
    have houtcome : outcome = _ := inSpan_run_fault hconnect
    have hsettled : settled = _ := inSpan_run_fault hconnect'
    rw [hsettled, Endpoint.dialFault_of_none rfl, houtcome, Endpoint.dialFault_eq hconnect]
    constructor
    · cases endpoint.closingFault? world <;> rfl
    · exact (additions_dialed _ _ _ _).trans (additions_success_osNotes _ _)
  | none =>
    -- One exchange serves both worlds, since faults of closing have no part in it.
    obtain ⟨ended, trace, hexchanged, hrun⟩ := exchange_run world.room method params clock
      world.sendFault world.opened.incoming.readLine.1
    obtain ⟨incoming, hexchange⟩ := hrun world.opened rfl rfl rfl
    obtain ⟨incoming', hexchange'⟩ := hrun world.closable.opened rfl rfl rfl
    have hconnect' : world.closable.connectFault = none := hconnect
    have houtcome : outcome = _ := inSpan_run hconnect hexchange
    have hsettled : settled = _ := inSpan_run hconnect' hexchange'
    have hended : world.closable.opened.ending ended = ended := rfl
    rw [hsettled, hended, houtcome, Endpoint.closingFault?_of_none hconnect]
    constructor
    · rw [Connection.ending]
      cases world.opened.closeFault? <;> rfl
    · rw [additions_connected, additions_append, hexchanged.additions_success,
        additions_success_osNotes, Nat.add_zero]

theorem call_of_closingFault {endpoint : Endpoint} {world : World} {f : Fault}
    (h : endpoint.closingFault? world = some f) (clock : Clock) (name : Text) (params : List Param) :
    (call endpoint world clock name params ()).result = .error (.fault f) := by
  have hended := (inSpan_closing endpoint world clock (Method.wireName name) params).1
  rw [h] at hended
  exact hended

theorem call_of_closable {endpoint : Endpoint} {world : World}
    (h : endpoint.closingFault? world = none) (clock : SystemClock) (name : Text)
    (params : List Param) :
    (call endpoint world clock name params ()).result =
      concluded world.closable (Method.wireName name) params := by
  have hended := (inSpan_closing endpoint world clock (Method.wireName name) params).1
  rw [h] at hended
  exact hended.trans (call_result endpoint world.closable clock name params rfl rfl)

/-- For every endpoint, world, clock, name and parameters, a call in which closing raises no fault ends
as in the world without faults of closing.  A fault of closing leaves the call in the place of its
result or its error, although the result has been counted as a success. -/
theorem call_closing (endpoint : Endpoint) (world : World) (clock : Clock) (name : Text)
    (params : List Param) :
    let outcome := call endpoint world clock name params ()
    let settled := call endpoint world.closable clock name params ()
    outcome.result = (endpoint.closingFault? world).elim settled.result (.error <| .fault ·) ∧
      additions Metric.success outcome.trace = settled.result.isOk.toNat := by
  intro outcome settled
  have hinner := inSpan_closing endpoint world clock (Method.wireName name) params
  refine ⟨hinner.1, ?_⟩
  rw [← additions_measurements, measurements_call, additions_measurements]
  exact hinner.2

/-- A socket that cannot be closed after a response: the call fails with the fault of closing, and has
counted a success. -/
theorem call_closing_replaced :
    let chunks : List Arrival :=
      [.data [0x7B, 0x22, 0x72, 0x65, 0x73, 0x75, 0x6C, 0x74, 0x22, 0x3A, 0x31, 0x7D, 0x0A]]
    let f : Fault := ⟨.os, .numbered 5 "Input/output error"⟩
    let world : World := ⟨none, none, chunks, none, some f, 984⟩
    let outcome := call ⟨"tcp://h:1", .tcp "h" 1⟩ world [] "status" [] ()
    outcome.result = .error (.fault f) ∧ additions Metric.success outcome.trace = 1 ∧
      (call ⟨"tcp://h:1", .tcp "h" 1⟩ world.closable [] "status" [] ()).result =
        .ok (.number (.int 1)) := by
  intro chunks f world outcome
  exact ⟨rfl, by decide +kernel, rfl⟩

end Client

end SupervisorRpc
