import SupervisorRpc.Proofs.Client.Run
import SupervisorRpc.Proofs.Connection.Items

/-! The stages of a call.  Where closing raises no fault, a call ends with the failure of the first
stage that fails: connecting, writing the request, sending it, receiving a line, reading the response.
With the clock of the system the time can always be taken.  The daemon's data counts as one sequence of
bytes and faults up to its first newline. -/

namespace SupervisorRpc

/-- What arrives in a world, item by item. -/
def World.items (w : World) : List Item := w.incoming.flatMap Arrival.items

/-- Two worlds with the same faults and the same room, whose data may be cut into chunks differently, and
may differ after a newline. -/
structure World.Alike (w w' : World) : Prop where
  connect : w'.connectFault = w.connectFault
  send : w'.sendFault = w.sendFault
  reader : w'.readerFault = w.readerFault
  socket : w'.socketFault = w.socketFault
  room : w'.room = w.room
  items : w'.items = w.items ∨ ∃ before rest rest',
    w.items = before ++ .byte newline :: rest ∧ w'.items = before ++ .byte newline :: rest'

theorem World.readLine_opened (w : World) :
    w.opened.incoming.readLine.1 = (Incoming.readItems [] w.items).1 := by
  rw [(Incoming.readLine_eq_readItems w.opened.incoming).1]
  rfl

/-! ### The clock of the system -/

/-- The milliseconds between the first two readings. -/
def SystemClock.elapsed (clock : SystemClock) : Float :=
  (clock[1]?.getD 0.0 - clock[0]?.getD 0.0) * 1000.0

theorem SystemClock.elapsed?_readings (clock : SystemClock) :
    Clock.elapsed? clock.readings = some (.float clock.elapsed) := by
  have hreading : ∀ i : Nat, clock.readings[i]?.getD (.float 0.0) =
      .float (clock[i]?.getD 0.0) := by
    intro i
    rw [readings, List.getElem?_map]
    cases clock[i]? <;> rfl
  rw [Clock.elapsed?]
  simp only [hreading]
  rfl

namespace Client

/-- Fails with a fault if there is one. -/
def raised : Option Fault → Except Failure Unit
  | none => .ok ()
  | some f => .error (.fault f)

/-- The line that a call receives, or the failure of the first stage up to it that fails. -/
def received (world : World) (params : List Param) : Except Failure (List UInt8) := do
  raised world.connectFault
  let _ ← params.mapM (Param.writable world.room)
  raised world.sendFault
  (Incoming.readItems [] world.items).1.result

/-- How a call ends by its stages.  With the clock of the system, taking the time is none of them. -/
def concluded (world : World) (method : Text) (params : List Param) : Except Failure Json := do
  let line ← received world params
  (Response.read world.limit method line ()).result

variable {endpoint : Endpoint} {world : World} {clock : Clock} {method : Text}
  {params : List Param}

theorem osNotes_of_mapM_writable {room : Nat} {e : Failure}
    (h : params.mapM (Param.writable room) = .error e) (note : Failure → List Activity) :
    Act.osNotes (α := Json) note (.error e) = [] := by
  rw [Act.osNotes, isOS_of_mapM_writable h]
  rfl

theorem received_of_request {request : Text}
    (hrequest : requestLine world.room method params = .ok request)
    (hconnect : world.connectFault = none) :
    received world params =
      (raised world.sendFault >>= fun _ => (Incoming.readItems [] world.items).1.result) := by
  obtain ⟨values, hvalues, -⟩ := requestLine_eq_ok hrequest
  rw [received, hconnect, hvalues]
  rfl

theorem received_of_sent {request : Text}
    (hrequest : requestLine world.room method params = .ok request)
    (hconnect : world.connectFault = none) (hsend : world.sendFault = none) :
    received world params = (Incoming.readItems [] world.items).1.result := by
  rw [received_of_request hrequest hconnect, hsend]
  rfl

/-- Connecting, a parameter or sending may keep a line from being received; else it is received or not as
the answer ends. -/
theorem received_cases (world : World) (params : List Param) :
    (∃ f, world.connectFault = some f ∧ received world params = .error (.fault f)) ∨
      (∃ e, params.mapM (Param.writable world.room) = .error e ∧
        received world params = .error e) ∨
      (∃ f, world.sendFault = some f ∧ received world params = .error (.fault f)) ∨
      received world params = (Incoming.readItems [] world.items).1.result := by
  rw [received]
  cases hconnect : world.connectFault with
  | some f => exact .inl ⟨f, rfl, rfl⟩
  | none =>
  cases hvalues : params.mapM (Param.writable world.room) with
  | error e => exact .inr (.inl ⟨e, rfl, rfl⟩)
  | ok values =>
  cases hsend : world.sendFault with
  | some f => exact .inr (.inr (.inl ⟨f, rfl, rfl⟩))
  | none => exact .inr (.inr (.inr rfl))

/-- No line is received because of a fault of connecting, of a parameter, of a fault of sending, or of
how the answer ends. -/
theorem received_error_cases {e : Failure} (h : received world params = .error e) :
    (∃ f, world.connectFault = some f ∧ e = .fault f) ∨
      params.mapM (Param.writable world.room) = .error e ∨
      (∃ f, world.sendFault = some f ∧ e = .fault f) ∨
      (Incoming.readItems [] world.items).1.result = .error e := by
  rcases received_cases world params with ⟨f, hconnect, hended⟩ | ⟨e', hvalues, hended⟩ |
    ⟨f, hsend, hended⟩ | hended
  all_goals rw [h] at hended
  · exact .inl ⟨f, hconnect, Except.error.inj hended⟩
  · exact .inr (.inl (Except.error.inj hended ▸ hvalues))
  · exact .inr (.inr (.inl ⟨f, hsend, Except.error.inj hended⟩))
  · exact .inr (.inr (.inr hended.symm))

/-- The way that an exchange goes is the way that the stages say. -/
theorem Exchanged.ended_eq {clock : SystemClock} {ended : Except Failure Json}
    {trace : List Activity}
    (h : Exchanged world.room method params clock world.sendFault
      (Incoming.readItems [] world.items).1 ended trace) (hconnect : world.connectFault = none) :
    ended = concluded world method params := by
  cases h with
  | unwritten hrequest =>
    rw [concluded, received, hconnect, requestLine_eq_error_iff.mp hrequest]
    rfl
  | unsent hrequest hsend =>
    rw [concluded, received_of_request hrequest hconnect, hsend]
    rfl
  | unanswered hrequest hsend hanswer =>
    rw [concluded, received_of_sent hrequest hconnect hsend, hanswer]
    rfl
  | untimed _ _ _ hclock => cases hclock.symm.trans clock.elapsed?_readings
  | untold _ _ _ hclock htold =>
    obtain rfl := Option.some.inj (hclock.symm.trans clock.elapsed?_readings)
    cases htold
  | answered hrequest hsend hanswer _ _ =>
    rw [concluded, received_of_sent hrequest hconnect hsend, hanswer]
    rfl

/-- Where closing raises nothing, a call ends as its stages say. -/
theorem call_result (endpoint : Endpoint) (world : World) (clock : SystemClock) (name : Text)
    (params : List Param) (hreader : world.readerFault = none)
    (hsocket : world.socketFault = none) :
    (call endpoint world clock name params ()).result =
      concluded world (Method.wireName name) params := by
  rw [call_eq, Act.span_run]
  cases hconnect : world.connectFault with
  | some f =>
    rw [inSpan_run_fault hconnect, Endpoint.dialFault_of_none hsocket, concluded, received,
      hconnect]
    rfl
  | none =>
    obtain ⟨ended, trace, hexchanged, hrun⟩ :=
      inSpan_exchanged endpoint clock (Method.wireName name) params hconnect
    rw [world.readLine_opened] at hexchanged
    rw [hrun, Connection.ending, World.closeFault?_opened hreader hsocket]
    exact hexchanged.ended_eq hconnect

/-- Neither the chunks nor what comes after a newline have a part in a call. -/
theorem inSpan_alike {world' : World} (h : world.Alike world') :
    inSpan endpoint world' clock method params () =
      inSpan endpoint world clock method params () := by
  cases hconnect : world.connectFault with
  | some f =>
    have hfault : endpoint.dialFault world' f = endpoint.dialFault world f := by
      rw [Endpoint.dialFault, Endpoint.dialFault, h.socket]
    rw [inSpan_run_fault hconnect, inSpan_run_fault (h.connect.trans hconnect), hfault]
  | none =>
    have hanswer : world'.opened.incoming.readLine.1 = world.opened.incoming.readLine.1 := by
      rw [world'.readLine_opened, world.readLine_opened]
      rcases h.items with heq | ⟨before, rest, rest', hitems, hitems'⟩
      · rw [heq]
      · rw [hitems, hitems']
        exact Incoming.readItems_newline [] before rest' rest
    obtain ⟨ended, trace, -, hrun⟩ := exchange_run world.room method params clock
      world.sendFault world.opened.incoming.readLine.1
    obtain ⟨incoming, hexchange⟩ := hrun world.opened rfl rfl rfl
    obtain ⟨incoming', hexchange'⟩ := hrun world'.opened rfl h.send hanswer
    rw [← h.room] at hexchange'
    have hclose : world'.opened.closeFault? = world.opened.closeFault? := by
      simp [Connection.closeFault?, World.opened, h.reader, h.socket]
    rw [inSpan_run hconnect hexchange, inSpan_run (h.connect.trans hconnect) hexchange']
    rw [Connection.ending, Connection.ending, Connection.closeTrace, Connection.closeTrace, hclose]

/-- Where closing raises no fault, a call with the clock of the system ends with the failure of the first
stage that fails, as that stage raised it, or else as the response says.  Writing the request fails
with what the first parameter that cannot be written has against it: all can be but those that JSON
cannot hold, integers of too many digits and too much nesting.  Neither the chunks nor what comes
after a newline change anything about the call. -/
theorem call_by_stages (endpoint : Endpoint) (world : World) (clock : SystemClock) (name : Text)
    (params : List Param) (hreader : world.readerFault = none)
    (hsocket : world.socketFault = none) :
    (call endpoint world clock name params ()).result =
        concluded world (Method.wireName name) params ∧
      (∀ e, params.mapM (Param.writable world.room) = .error e ↔
        ∃ before p after, params = before ++ p :: after ∧
          (∀ q ∈ before, ∃ v, q.writable world.room = .ok v) ∧ p.writable world.room = .error e) ∧
      (∀ p : Param, (∃ v, p.writable world.room = .ok v) ↔
        ∃ v, p = .value v ∧ Json.Fits world.room v) ∧
      (∀ world', world.Alike world' →
        call endpoint world' clock name params () = call endpoint world clock name params ()) ∧
      (∀ f, (Failure.fault f).errorClass = f.errorClass ∧ (Failure.fault f).message = f.message) ∧
      Failure.unserializable.errorClass = .type ∧
      (Failure.unwritable .digits).errorClass = .value ∧
      (Failure.unwritable .depth).errorClass = .recursion ∧
      ∀ count, (Failure.truncated count).errorClass = .connection ∧
        (Failure.truncated count).message =
          text "connection closed after " ++ Text.ofNat count ++
            text " bytes, expected a newline-terminated response" := by
  refine ⟨?_, fun e => mapM_writable_eq_error_iff, fun p => writable_iff, ?_,
    fun f => ⟨rfl, rfl⟩, rfl, rfl, rfl, fun count => ⟨rfl, rfl⟩⟩
  · exact call_result endpoint world clock name params hreader hsocket
  · intro world' h
    rw [call_eq, call_eq endpoint world, Act.span_run, Act.span_run, inSpan_alike h]

/-- An integer of 4301 digits is refused when the request is written: the call does not fail as it does
about a parameter that JSON cannot hold, and does not go on to the response either, as it does without
parameters. -/
theorem call_refused_digits :
    let chunks : List Arrival :=
      [.data [0x7B, 0x22, 0x72, 0x65, 0x73, 0x75, 0x6C, 0x74, 0x22, 0x3A, 0x31, 0x7D, 0x0A]]
    let world : World := ⟨none, none, chunks, none, none, 984⟩
    let params : List Param := [.value (.number (.int (.ofNat (10 ^ Json.digitLimit))))]
    let outcome := call ⟨"tcp://h:1", .tcp "h" 1⟩ world [] "status" params ()
    outcome.failureClass? = some .value ∧ outcome.failureClass? ≠ some .type ∧
      outcome.result ≠ concluded world (Method.wireName "status") [] := by
  intro chunks world params outcome
  have hlarge : ∀ n : Nat, (Int.ofNat n).natAbs = n := fun _ => rfl
  have hwritable : params.mapM (Param.writable world.room) = .error (.unwritable .digits) := by
    apply mapM_writable_cons_error
    rw [Param.writable, Json.excess?_of_digits (hlarge _).ge]
  have hresult : outcome.result = .error (.unwritable .digits) := by
    have hended : outcome.result = concluded world (Method.wireName "status") params :=
      call_result ⟨"tcp://h:1", .tcp "h" 1⟩ world [] "status" params rfl rfl
    rw [hended, concluded, received, hwritable]
    rfl
  have hclass : outcome.failureClass? = some .value := by
    rw [Outcome.failureClass?, hresult]
    rfl
  have hread : concluded world (Method.wireName "status") [] = .ok (.number (.int 1)) := rfl
  refine ⟨hclass, ?_, ?_⟩
  · rw [hclass]
    decide
  · rw [hresult, hread]
    intro heq
    cases heq

/-- The response comes in three chunks, with more data behind it. -/
theorem call_by_stages_chunks :
    let chunks : List Arrival :=
      [.data [0x7B, 0x22, 0x72, 0x65, 0x73, 0x75, 0x6C, 0x74, 0x22], .data [0x3A, 0x31, 0x7D, 0x0D],
        .data [0x0A, 0x7B], .fault ⟨.timeout, .none⟩]
    let world : World := ⟨none, none, chunks, none, none, 984⟩
    let clock : SystemClock := [1.5, 2.0]
    (call ⟨"/s", .unix "/s"⟩ world clock "status" [] ()).result = .ok (.number (.int 1)) := by
  intro chunks world clock
  rw [(call_by_stages ⟨"/s", .unix "/s"⟩ world clock "status" [] rfl rfl).1]
  rfl

end Client

end SupervisorRpc
