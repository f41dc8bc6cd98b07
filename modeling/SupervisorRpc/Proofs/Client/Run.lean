import SupervisorRpc.Proofs.Client.Params
import SupervisorRpc.Proofs.Connection.Steps
import SupervisorRpc.Proofs.Dial
import SupervisorRpc.Proofs.Json.Printable
import SupervisorRpc.Proofs.Response

/-! What a call comes to.  `Client.Exchanged` lists the stages at which an exchange ends, with its
ending and its activities.  `exchange_run` says that an exchange over an open connection always goes
one of these ways, and `inSpan_run` and `inSpan_run_fault` what a whole call makes of it. -/

namespace SupervisorRpc

theorem World.closeFault?_opened {w : World} (hreader : w.readerFault = none)
    (hsocket : w.socketFault = none) : w.opened.closeFault? = none := by
  simp [Connection.closeFault?, opened, hreader, hsocket]

namespace Client

/-- The activities before a request is sent. -/
def askTrace (method request : Text) : List Activity :=
  [Metric.counted Metric.requests method,
    .log .debug logger (text "Sending request: " ++ Response.shown request)]

/-- The activities up to the sending of a request. -/
def sendTrace (method request : Text) : List Activity :=
  askTrace method request ++ [.send (request ++ [point '\n'])]

/-- The measurement of the time that a call took. -/
def timed (method : Text) (elapsed : Number) : Activity :=
  .record Metric.latency elapsed (Metric.attributes method)

/-- The log line about the time that a call took. -/
def told (shown : Text) : Activity :=
  .log .debug logger (text "Received response, latency: " ++ shown ++ text "ms")

/-- An exchange ends in some way with activities, when the world holds `sendFault` for it and the
answer ends as `answer` says. -/
inductive Exchanged (room : Nat) (method : Text) (params : List Param) (clock : Clock)
    (sendFault : Option Fault) (answer : LineEnd) : Except Failure Json → List Activity → Prop
  | unwritten {e : Failure} (hrequest : requestLine room method params = .error e) :
      Exchanged room method params clock sendFault answer (.error e) []
  | unsent {request : Text} {f : Fault} (hrequest : requestLine room method params = .ok request)
      (hsend : sendFault = some f) :
      Exchanged room method params clock sendFault answer (.error (.fault f)) (askTrace method request)
  | unanswered {request : Text} {e : Failure} (hrequest : requestLine room method params = .ok request)
      (hsend : sendFault = none) (hanswer : answer.result = .error e) :
      Exchanged room method params clock sendFault answer (.error e) (sendTrace method request)
  | untimed {request : Text} {line : List UInt8}
      (hrequest : requestLine room method params = .ok request) (hsend : sendFault = none) (hanswer : answer.result = .ok line)
      (hclock : clock.elapsed? = none) :
      Exchanged room method params clock sendFault answer (.error .clockRange)
        (sendTrace method request)
  | untold {request : Text} {line : List UInt8} {elapsed : Number}
      (hrequest : requestLine room method params = .ok request) (hsend : sendFault = none)
      (hanswer : answer.result = .ok line) (hclock : clock.elapsed? = some elapsed)
      (htold : elapsed.toCents? = none) :
      Exchanged room method params clock sendFault answer (.error .clockRange)
        (sendTrace method request ++ [timed method elapsed])
  | answered {request : Text} {line : List UInt8} {elapsed : Number} {shown : Text}
      (hrequest : requestLine room method params = .ok request) (hsend : sendFault = none)
      (hanswer : answer.result = .ok line) (hclock : clock.elapsed? = some elapsed)
      (htold : elapsed.toCents? = some shown) :
      Exchanged room method params clock sendFault answer
        (Response.read (room + 1) method line ()).result
        (sendTrace method request ++ [timed method elapsed, told shown] ++
          (Response.read (room + 1) method line ()).trace)

/-- A request is written in printable text. -/
theorem printable_request {room : Nat} {method request : Text} {params : List Param}
    (h : requestLine room method params = .ok request) : request.Printable := by
  obtain ⟨values, -, rfl⟩ := requestLine_eq_ok h
  exact Json.printable_encode Json.compact_printable _

/-- What an exchange does with a line that it received. -/
def conclude (limit : Nat) (method : Text) (clock : Clock) (line : List UInt8) :
    Act Connection Json := do
  let elapsed ← Act.require clock.elapsed? .clockRange
  Act.perform (timed method elapsed)
  let shown ← Act.require elapsed.toCents? .clockRange
  Act.perform (told shown)
  Response.read limit method line

variable {room : Nat} {method : Text} {params : List Param} {clock : Clock} {c : Connection}

theorem exchange_unwritten {e : Failure} (h : requestLine room method params = .error e) :
    exchange room method params clock c = ⟨.error e, c, []⟩ := by
  rw [exchange, h]
  rfl

theorem exchange_request {request : Text} (h : requestLine room method params = .ok request) :
    exchange room method params clock c =
      ((Connection.writeLine request >>= fun _ =>
        Connection.readLine >>= conclude (room + 1) method clock) c).after
          (askTrace method request) := by
  rw [exchange, h]
  rfl

theorem exchange_unsent {request : Text} (h : requestLine room method params = .ok request)
    (hopen : c.closed = false) {f : Fault} (hsend : c.sendFault = some f) :
    exchange room method params clock c = ⟨.error (.fault f), c, askTrace method request⟩ := by
  rw [exchange_request h, Act.bind_run_error
    (Connection.writeLine_run_fault hopen (printable_request h).surrogateRun? hsend)]
  simp [Outcome.after]

theorem exchange_sent {request : Text} (h : requestLine room method params = .ok request)
    (hopen : c.closed = false) (hsend : c.sendFault = none) :
    exchange room method params clock c =
      ((Connection.readLine >>= conclude (room + 1) method clock) c).after
        (sendTrace method request) := by
  rw [exchange_request h, Act.bind_run_ok
    (Connection.writeLine_run hopen (printable_request h).surrogateRun? hsend)]
  simp [sendTrace]

theorem exchange_unanswered {request : Text} (h : requestLine room method params = .ok request)
    (hopen : c.closed = false) (hsend : c.sendFault = none) {e : Failure}
    (hread : c.incoming.readLine.1.result = .error e) :
    exchange room method params clock c =
      ⟨.error e, { c with incoming := c.incoming.readLine.2 }, sendTrace method request⟩ := by
  rw [exchange_sent h hopen hsend, Act.bind_run_error (Connection.readLine_run hopen hread)]
  simp [Outcome.after]

theorem exchange_answered {request : Text} (h : requestLine room method params = .ok request)
    (hopen : c.closed = false) (hsend : c.sendFault = none) {line : List UInt8}
    (hread : c.incoming.readLine.1.result = .ok line) :
    exchange room method params clock c =
      (conclude (room + 1) method clock line { c with incoming := c.incoming.readLine.2 }).after
        (sendTrace method request) := by
  rw [exchange_sent h hopen hsend, Act.bind_run_ok (Connection.readLine_run hopen hread)]
  simp

/-- An exchange over an open connection ends in one of the ways of `Exchanged`, and leaves the
connection as it was but for what was read from it. -/
theorem exchange_run (room : Nat) (method : Text) (params : List Param) (clock : Clock)
    (sendFault : Option Fault) (answer : LineEnd) :
    ∃ ended trace, Exchanged room method params clock sendFault answer ended trace ∧
      ∀ c : Connection, c.closed = false → c.sendFault = sendFault →
        c.incoming.readLine.1 = answer →
        ∃ incoming, exchange room method params clock c = ⟨ended, { c with incoming }, trace⟩ := by
  -- The cases are the stages, each reached when the one before it passes.
  cases hrequest : requestLine room method params with
  | error e =>
    exact ⟨_, _, .unwritten hrequest, fun c _ _ _ => ⟨c.incoming, exchange_unwritten hrequest⟩⟩
  | ok request =>
  cases sendFault with
  | some f =>
    exact ⟨_, _, .unsent hrequest rfl, fun c hopen hsend _ =>
      ⟨c.incoming, exchange_unsent hrequest hopen hsend⟩⟩
  | none =>
  cases hanswer : answer.result with
  | error e =>
    exact ⟨_, _, .unanswered hrequest rfl hanswer, fun c hopen hsend hread =>
      ⟨_, exchange_unanswered hrequest hopen hsend (hread ▸ hanswer)⟩⟩
  | ok line =>
  cases hclock : clock.elapsed? with
  | none =>
    refine ⟨_, _, .untimed hrequest rfl hanswer hclock, fun c hopen hsend hread =>
      ⟨c.incoming.readLine.2, ?_⟩⟩
    rw [exchange_answered hrequest hopen hsend (hread ▸ hanswer), conclude, hclock]
    rfl
  | some elapsed =>
  cases htold : elapsed.toCents? with
  | none =>
    refine ⟨_, _, .untold hrequest rfl hanswer hclock htold, fun c hopen hsend hread =>
      ⟨c.incoming.readLine.2, ?_⟩⟩
    rw [exchange_answered hrequest hopen hsend (hread ▸ hanswer), conclude, hclock]
    simp [htold, Outcome.after]
  | some shown =>
    refine ⟨_, _, .answered hrequest rfl hanswer hclock htold, fun c hopen hsend hread =>
      ⟨c.incoming.readLine.2, ?_⟩⟩
    rw [exchange_answered hrequest hopen hsend (hread ▸ hanswer), conclude, hclock]
    simp [htold, Outcome.after,
      Response.read_run (room + 1) method line { c with incoming := c.incoming.readLine.2 }]

/-! ### Whole calls -/

/-- The activities after a failure of the operating system. -/
def failureTrace (method what : Text) (e : Failure) : List Activity :=
  [.log .error logger (what ++ text ": " ++ e.message), Metric.errorCounted .io method]

/-- What is said about a failure to connect. -/
def connectFailed (endpoint : Endpoint) : Text := text "Failed to connect to " ++ endpoint.label

/-- What is said about a failure while a connection is open. -/
def exchangeFailed (endpoint : Endpoint) (method : Text) : Text :=
  text "I/O error calling " ++ method ++ text " on " ++ endpoint.label

/-- Writes about a failure of the operating system and counts it. -/
def noteFailure {σ : Type} (method what : Text) (e : Failure) : Act σ Unit := do
  Act.log .error logger (what ++ text ": " ++ e.message)
  Metric.countError .io method

/-- What a call does inside its span. -/
def inSpan (endpoint : Endpoint) (world : World) (clock : Clock) (method : Text)
    (params : List Param) : Act Unit Json :=
  Act.within
    (Act.onOSFailure (endpoint.record.connect world)
      (noteFailure method (connectFailed endpoint)))
    (Act.ensuring
      (Act.onOSFailure (exchange world.room method params clock)
        (noteFailure method (exchangeFailed endpoint method)))
      Connection.close)

theorem call_eq (endpoint : Endpoint) (world : World) (clock : Clock) (name : Text)
    (params : List Param) :
    call endpoint world clock name params =
      Act.span (text "rpc.client " ++ Method.wireName name)
        [("rpc.method", .string (Method.wireName name)),
          ("server.address", .string endpoint.label)]
        (inSpan endpoint world clock (Method.wireName name) params) := rfl

/-- The span of a call does nothing itself but its tracing. -/
theorem call_filter (endpoint : Endpoint) (world : World) (clock : Clock) (name : Text)
    (params : List Param) {p : Activity → Bool} (h : ∀ {a}, a.isTracing = true → p a = false) :
    (call endpoint world clock name params ()).trace.filter p =
      (inSpan endpoint world clock (Method.wireName name) params ()).trace.filter p := by
  have htracer : ∀ name, p (.tracer name) = false := fun _ => h rfl
  have hstart : ∀ name attributes, p (.spanStart name attributes) = false := fun _ _ => h rfl
  have hend : ∀ failure, p (.spanEnd failure) = false := fun _ => h rfl
  rw [call_eq, Act.span_run]
  simp [htracer, hstart, hend]

section Routine

variable {p : Activity → Bool} (h : ∀ {a}, a.isRoutine = true → p a = false)

include h

/-- Dialing and cleaning up after it are routine. -/
theorem filter_dialed (endpoint : Endpoint) (f : Fault) (notes : List Activity) :
    (endpoint.dialTrace ++ endpoint.cleanupTrace f ++ notes).filter p = notes.filter p := by
  have hdial : ∀ a ∈ endpoint.dialTrace ++ endpoint.cleanupTrace f, a.isRoutine = true := by
    unfold Endpoint.dialTrace Endpoint.cleanupTrace
    split <;> split <;> simp [Activity.isRoutine]
  rw [List.filter_append, filter_of_isRoutine h hdial, List.nil_append]

/-- Opening and closing a connection is routine. -/
theorem filter_connected (endpoint : Endpoint) (c : Connection) (body : List Activity) :
    (endpoint.dialTrace ++ [endpoint.connected] ++ (body ++ c.closeTrace)).filter p =
      body.filter p := by
  have hopen : ∀ a ∈ endpoint.dialTrace ++ [endpoint.connected], a.isRoutine = true := by
    unfold Endpoint.dialTrace
    split <;> simp [Activity.isRoutine, Endpoint.connected]
  have hclose : ∀ a ∈ c.closeTrace, a.isRoutine = true := by
    unfold Connection.closeTrace
    split <;> simp [Activity.isRoutine]
  rw [List.filter_append, filter_of_isRoutine h hopen, List.filter_append,
    filter_of_isRoutine h hclose, List.append_nil, List.nil_append]

end Routine

theorem noteFailure_run {σ : Type} (method what : Text) (e : Failure) (s : σ) :
    noteFailure method what e s = ⟨.ok (), s, failureTrace method what e⟩ := rfl

variable {endpoint : Endpoint} {world : World}

theorem inSpan_run_fault {f : Fault} (h : world.connectFault = some f) :
    inSpan endpoint world clock method params () =
      let ended := .error (.fault (endpoint.dialFault world f))
      ⟨ended, (), endpoint.dialTrace ++ endpoint.cleanupTrace f ++
        Act.osNotes (α := Json) (failureTrace method (connectFailed endpoint)) ended⟩ := by
  have hstart := Act.onOSFailure_run (endpoint.record.connect world)
    (noteFailure_run method (connectFailed endpoint)) ()
  rw [Endpoint.connect_run_fault h] at hstart
  exact Act.within_run_error hstart _

theorem call_of_connectFault {f : Fault} (h : world.connectFault = some f) (endpoint : Endpoint)
    (clock : Clock) (name : Text) (params : List Param) :
    (call endpoint world clock name params ()).result =
      .error (.fault (endpoint.dialFault world f)) := by
  rw [call_eq, Act.span_run, inSpan_run_fault h]

/-- A call over a connection ends as its exchange does, unless closing raises a fault, and closes the
connection after all else. -/
theorem inSpan_run (h : world.connectFault = none) {ended : Except Failure Json}
    {trace : List Activity} {incoming : Incoming}
    (hexchange : exchange world.room method params clock world.opened =
      ⟨ended, { world.opened with incoming }, trace⟩) :
    inSpan endpoint world clock method params () =
      ⟨world.opened.ending ended, (), endpoint.dialTrace ++ [endpoint.connected] ++
        (trace ++ Act.osNotes (failureTrace method (exchangeFailed endpoint method)) ended ++
          world.opened.closeTrace)⟩ := by
  have hstart := Act.onOSFailure_run (endpoint.record.connect world)
    (noteFailure_run method (connectFailed endpoint)) ()
  have hinner := Act.onOSFailure_run (exchange world.room method params clock)
    (noteFailure_run method (exchangeFailed endpoint method)) world.opened
  rw [Endpoint.connect_run h] at hstart
  rw [hexchange] at hinner
  rw [inSpan, Act.within_run_ok hstart, Connection.ensuring_close_run hinner rfl]
  simp [Act.osNotes, Connection.closeTrace, Connection.closeFault?, Connection.ending]

/-- A call over a connection goes one of the ways of `Exchanged`. -/
theorem inSpan_exchanged (endpoint : Endpoint) (clock : Clock) (method : Text)
    (params : List Param) (h : world.connectFault = none) :
    ∃ ended trace, Exchanged world.room method params clock world.sendFault
        world.opened.incoming.readLine.1 ended trace ∧
      inSpan endpoint world clock method params () =
        ⟨world.opened.ending ended, (), endpoint.dialTrace ++ [endpoint.connected] ++
          (trace ++ Act.osNotes (failureTrace method (exchangeFailed endpoint method)) ended ++
            world.opened.closeTrace)⟩ := by
  obtain ⟨ended, trace, hexchanged, hrun⟩ := exchange_run world.room method params clock world.sendFault
    world.opened.incoming.readLine.1
  obtain ⟨incoming, hexchange⟩ := hrun world.opened rfl rfl rfl
  exact ⟨ended, trace, hexchanged, inSpan_run h hexchange⟩

/-- A dispatch fails before anything is done, or it is a call. -/
theorem dispatch_cases (endpoint : Endpoint) (world : World) (clock : Clock) (name : Text)
    (params : List Param) :
    (∃ e, dispatch endpoint world clock name params = Act.fail e) ∨
      ∃ name' params', dispatch endpoint world clock name params =
        call endpoint world clock name' params' := by
  unfold dispatch
  split
  · exact .inl ⟨_, rfl⟩
  split
  · exact .inl ⟨_, rfl⟩
  split
  · split
    · exact .inl ⟨_, rfl⟩
    · exact .inr ⟨_, _, rfl⟩
    · exact .inl ⟨_, rfl⟩
  split
  · split
    · exact .inr ⟨_, _, rfl⟩
    · exact .inl ⟨_, rfl⟩
  · exact .inr ⟨_, _, rfl⟩

end Client

end SupervisorRpc
