import SupervisorRpc.Proofs.Client.Stages

/-! What a call measures.  `Measured` lists the ways of a call in a world without faults other than those
of the operating system: each with its ending and its measurements, which are the request, the time and
the verdict, as far as the call comes. -/

namespace SupervisorRpc

theorem ErrorClass.isOS_ofErrno (n : Int) : (ErrorClass.ofErrno n).isOS = true := by
  simp only [ErrorClass.ofErrno, apply_ite ErrorClass.isOS]
  simp [ErrorClass.isOS]

theorem Fault.isOS_failure (f : Fault) : (Failure.fault f).isOS = f.isOS := by
  rw [Failure.isOS, Failure.errorClass, Fault.errorClass, Fault.isOS]
  split
  · next hraised _ =>
    rw [hraised, ErrorClass.isOS_ofErrno]
    rfl
  · rfl

theorem Incoming.mem_of_readItems {line : List UInt8} {items : List Item} {f : Fault}
    (h : (readItems line items).1 = .fault f) : .fault f ∈ items := by
  induction items generalizing line with
  | nil => cases h
  | cons item items ih =>
    cases item with
    | byte b =>
      rw [readItems] at h
      split at h
      · cases h
      · exact List.mem_cons_of_mem _ (ih h)
    | fault g =>
      rw [readItems] at h
      split at h
      · exact List.mem_cons_of_mem _ (ih h)
      · obtain rfl : g = f := LineEnd.fault.inj h
        exact List.mem_cons_self

namespace World

/-- All faults of the world are failures of the operating system, and closing raises none. -/
structure Calm (w : World) : Prop where
  connect : ∀ f ∈ w.connectFault, f.isOS = true
  send : ∀ f ∈ w.sendFault, f.isOS = true
  incoming : ∀ f, .fault f ∈ w.incoming → f.isOS = true
  reader : w.readerFault = none
  socket : w.socketFault = none

variable {w : World}

theorem mem_incoming_of_mem_items {f : Fault} (h : .fault f ∈ w.items) : .fault f ∈ w.incoming := by
  obtain ⟨arrival, harrival, hf⟩ := List.mem_flatMap.mp h
  cases arrival with
  | data bytes => simp [Arrival.items] at hf
  | fault g =>
    obtain rfl : f = g := by simpa [Arrival.items] using hf
    exact harrival

theorem Calm.isOS_of_unread (h : w.Calm) {e : Failure}
    (he : (Incoming.readItems [] w.items).1.result = .error e) : e.isOS = true := by
  cases hread : (Incoming.readItems [] w.items).1 with
  | line bytes =>
    rw [hread] at he
    cases he
  | truncated bytes =>
    rw [hread] at he
    obtain rfl := Except.error.inj he
    rfl
  | fault f =>
    rw [hread] at he
    obtain rfl := Except.error.inj he
    rw [Fault.isOS_failure]
    exact h.incoming f (mem_incoming_of_mem_items (Incoming.mem_of_readItems hread))

end World

/-- No way of reading a response ends in a failure of the operating system. -/
theorem Response.Reading.osNotes_eq_nil {limit : Nat} {method : Text} {line : List UInt8}
    {ended : Except Failure Json} {trace : List Activity} (h : Reading limit method line ended trace)
    (note : Failure → List Activity) : Act.osNotes note ended = [] := by
  cases h <;> rfl

namespace Client

/-- The line that a call receives has less nesting than the decoder takes. -/
def Shallow (world : World) (params : List Param) : Prop :=
  ∀ line nesting, received world params = .ok line →
    Response.decode world.limit line ≠ .error (.json (.depth nesting))

/-- A call opens its connection and writes its request. -/
structure Asked (world : World) (method : Text) (params : List Param) : Prop where
  connect : world.connectFault = none
  request : (requestLine world.room method params).isOk = true

/-- A call with the clock of the system ends in some way with measurements. -/
inductive Measured (world : World) (clock : SystemClock) (method : Text) (params : List Param) :
    Except Failure Json → List Activity → Prop
  | unconnected {f : Fault} {e : Failure} (hconnect : world.connectFault = some f)
      (he : e.isOS = true) :
      Measured world clock method params (.error e) [Metric.errorCounted .io method]
  | unwritten {e : Failure} (hconnect : world.connectFault = none)
      (hrequest : requestLine world.room method params = .error e) :
      Measured world clock method params (.error e) []
  | unanswered {e : Failure} (hasked : Asked world method params)
      (hreceived : received world params = .error e) (he : e.isOS = true) :
      Measured world clock method params (.error e)
        [Metric.counted Metric.requests method, Metric.errorCounted .io method]
  | answered {line : List UInt8} {ended : Except Failure Json} {counted : Activity}
      (hasked : Asked world method params) (hreceived : received world params = .ok line)
      (hverdict : Response.Verdict world.limit method line ended counted) :
      Measured world clock method params ended
        [Metric.counted Metric.requests method, timed method (.float clock.elapsed), counted]

variable {world : World} {clock : SystemClock} {method : Text} {params : List Param}

theorem asked_of_request {request : Text} (hconnect : world.connectFault = none)
    (hrequest : requestLine world.room method params = .ok request) : Asked world method params :=
  ⟨hconnect, by rw [hrequest]; rfl⟩

theorem osNotes_of_isOS {e : Failure} (h : e.isOS = true) (what : Text) :
    measurements (Act.osNotes (α := Json) (failureTrace method what) (.error e)) =
      [Metric.errorCounted .io method] := by
  rw [Act.osNotes, if_pos h]
  rfl

/-- An exchange measures its request, its time and its verdict, and a failure of the operating system
after them. -/
theorem Exchanged.measured {ended : Except Failure Json} {trace : List Activity}
    (h : Exchanged world.room method params clock world.sendFault
      (Incoming.readItems [] world.items).1 ended trace) (hconnect : world.connectFault = none)
    (hcalm : world.Calm) (hshallow : Shallow world params) (what : Text) :
    Measured world clock method params ended
      (measurements (trace ++ Act.osNotes (failureTrace method what) ended)) := by
  rw [measurements_append]
  -- A note follows only failures of the operating system, so the cases differ in the second part too.
  cases h with
  | unwritten hrequest =>
    rw [osNotes_of_mapM_writable (requestLine_eq_error_iff.mp hrequest)]
    exact .unwritten hconnect hrequest
  | @unsent request f hrequest hsend =>
    have hOS : (Failure.fault f).isOS = true := by
      rw [Fault.isOS_failure]
      exact hcalm.send f hsend
    have hreceived : received world params = .error (.fault f) := by
      rw [received_of_request hrequest hconnect, hsend]
      rfl
    rw [osNotes_of_isOS hOS]
    exact .unanswered (asked_of_request hconnect hrequest) hreceived hOS
  | @unanswered request e hrequest hsend hanswer =>
    have hOS := hcalm.isOS_of_unread hanswer
    have hreceived : received world params = .error e := by
      rw [received_of_sent hrequest hconnect hsend, hanswer]
    rw [osNotes_of_isOS hOS]
    exact .unanswered (asked_of_request hconnect hrequest) hreceived hOS
  | untimed _ _ _ hclock => cases hclock.symm.trans clock.elapsed?_readings
  | untold _ _ _ hclock htold =>
    obtain rfl := Option.some.inj (hclock.symm.trans clock.elapsed?_readings)
    cases htold
  | @answered request line elapsed shown hrequest hsend hanswer hclock htold =>
    rw [← received_of_sent hrequest hconnect hsend] at hanswer
    obtain rfl := Option.some.inj (hclock.symm.trans clock.elapsed?_readings)
    have hreading := Response.reading world.limit method line
    obtain ⟨counted, hverdict, hcounted⟩ := hreading.verdict (hshallow line · hanswer)
    rw [measurements_append, hcounted, hreading.osNotes_eq_nil]
    exact .answered (asked_of_request hconnect hrequest) hanswer hverdict

theorem measurements_call (endpoint : Endpoint) (world : World) (clock : Clock) (name : Text)
    (params : List Param) :
    measurements (call endpoint world clock name params ()).trace =
      measurements (inSpan endpoint world clock (Method.wireName name) params ()).trace :=
  call_filter endpoint world clock name params Activity.isMeasurement_of_isTracing

theorem call_measured (endpoint : Endpoint) (clock : SystemClock) (name : Text)
    (hcalm : world.Calm) (hshallow : Shallow world params) :
    let outcome := call endpoint world clock name params ()
    Measured world clock (Method.wireName name) params outcome.result
      (measurements outcome.trace) := by
  intro outcome
  have hresult : outcome.result =
      (inSpan endpoint world clock (Method.wireName name) params ()).result := rfl
  rw [hresult, measurements_call]
  cases hconnect : world.connectFault with
  | some f =>
    have hOS : (Failure.fault f).isOS = true := by
      rw [Fault.isOS_failure]
      exact hcalm.connect f hconnect
    rw [inSpan_run_fault hconnect, Endpoint.dialFault_of_none hcalm.socket]
    dsimp only
    rw [measurements, filter_dialed Activity.isMeasurement_of_isRoutine, ← measurements,
      osNotes_of_isOS hOS]
    exact .unconnected hconnect hOS
  | none =>
    obtain ⟨ended, trace, hexchanged, hrun⟩ :=
      inSpan_exchanged endpoint clock (Method.wireName name) params hconnect
    rw [world.readLine_opened] at hexchanged
    rw [hrun, Connection.ending, World.closeFault?_opened hcalm.reader hcalm.socket]
    dsimp only
    rw [measurements, filter_connected Activity.isMeasurement_of_isRoutine]
    exact hexchanged.measured hconnect hcalm hshallow _

/-! ### Counts -/

/-- What a failure counts as, if it counts. -/
def errorType? (e : Failure) : Option ErrorType :=
  if e.isOS then some .io
  else
    match e with
    | .rpc e => some (if e.error?.isSome then .rpc else .parse)
    | _ => none

/-- What an ending adds to the counters. -/
def verdict (method : Text) : Except Failure Json → List Activity
  | .ok _ => [Metric.counted Metric.success method]
  | .error e => ((errorType? e).map (Metric.errorCounted · method)).toList

/-- One request if the connection opens and the parameters can be written. -/
def requested (world : World) (method : Text) (params : List Param) : List Activity :=
  if world.connectFault.isNone && (requestLine world.room method params).isOk then
    [Metric.counted Metric.requests method]
  else []

/-- One time if a line is received. -/
def timing (world : World) (clock : SystemClock) (method : Text) (params : List Param) :
    List Activity :=
  match received world params with
  | .ok _ => [timed method (.float clock.elapsed)]
  | .error _ => []

theorem errorType?_of_isOS {e : Failure} (h : e.isOS = true) : errorType? e = some .io := if_pos h

theorem errorType?_rpc (e : RpcError) :
    errorType? (.rpc e) = some (if e.error?.isSome then .rpc else .parse) := rfl

theorem errorType?_of_mapM_writable {room : Nat} {e : Failure}
    (h : params.mapM (Param.writable room) = .error e) : errorType? e = none := by
  rcases unwritten_cases h with rfl | ⟨excess, rfl⟩
  · rfl
  · cases excess <;> rfl

theorem verdict_eq {limit : Nat} {line : List UInt8} {ended : Except Failure Json}
    {counted : Activity} (h : Response.Verdict limit method line ended counted) :
    verdict method ended = [counted] := by
  cases h with
  | accepted value => rfl
  | unparsed he => simp [verdict, errorType?_rpc, he]
  | reported he => simp [verdict, errorType?_rpc, he]

variable {ended : Except Failure Json} {counted : List Activity}

theorem Measured.counted_eq (h : Measured world clock method params ended counted) :
    counted = requested world method params ++ timing world clock method params ++
      verdict method ended := by
  cases h with
  | @unconnected f e hconnect he =>
    have hreceived : received world params = .error (.fault f) := by
      rw [received, hconnect]
      rfl
    simp [requested, timing, verdict, hconnect, hreceived, errorType?_of_isOS he]
  | @unwritten e hconnect hrequest =>
    have hvalues := requestLine_eq_error_iff.mp hrequest
    have hreceived : received world params = .error e := by
      rw [received, hconnect, hvalues]
      rfl
    have hverdict : verdict method (.error e) = [] := by
      rw [verdict, errorType?_of_mapM_writable hvalues]
      rfl
    have hasked : (requestLine world.room method params).isOk = false := by
      rw [hrequest]
      rfl
    simp [requested, timing, hasked, hreceived, hverdict]
  | unanswered hasked hreceived he =>
    simp [requested, timing, verdict, hasked.connect, hasked.request, hreceived,
      errorType?_of_isOS he]
  | answered hasked hreceived hverdict =>
    simp [requested, timing, hasked.connect, hasked.request, hreceived, verdict_eq hverdict]

/-- A reported error comes with the object that reports it, and any other complaint about a response
with a line that is no object. -/
theorem Measured.rpc {e : RpcError} (h : Measured world clock method params (.error (.rpc e)) counted) :
    ∃ line, received world params = .ok line ∧
      match e.error? with
      | none => ∀ members, Response.decode world.limit line ≠ .ok (.object members)
      | some error => error.isNothing = false ∧ ∃ members,
        Response.decode world.limit line = .ok (.object members) ∧
          Response.errorOf members = error := by
  cases h with
  | unconnected _ he => cases he
  | unwritten _ hrequest =>
    rcases unwritten_cases (requestLine_eq_error_iff.mp hrequest) with he | ⟨excess, he⟩ <;> cases he
  | unanswered _ _ he => cases he
  | @answered line ended counted hasked hreceived hverdict =>
    refine ⟨line, hreceived, ?_⟩
    cases hverdict with
    | unparsed he hline =>
      rw [he]
      exact hline
    | reported he hline herror =>
      rw [he]
      exact ⟨herror, _, hline, rfl⟩

theorem Measured.failure {e : Failure} (h : Measured world clock method params (.error e) counted) :
    e.isOS = true ∨ (∃ r, e = .rpc r) ∨
      (params.mapM (Param.writable world.room) = .error e ∧ counted = []) := by
  cases h with
  | unconnected _ he => exact .inl he
  | unwritten _ hrequest => exact .inr (.inr ⟨requestLine_eq_error_iff.mp hrequest, rfl⟩)
  | unanswered _ _ he => exact .inl he
  | answered _ _ hverdict =>
    cases hverdict with
    | unparsed | reported => exact .inr (.inl ⟨_, rfl⟩)

end Client

def Activity.adds (counter : Text) : Activity → Bool
  | .add name _ _ => name = counter
  | _ => false

theorem Activity.isMeasurement_of_adds {counter : Text} {a : Activity} (h : a.adds counter = true) :
    a.isMeasurement = true := by
  cases a <;> first | rfl | cases h

/-- How often activities add to a counter. -/
def additions (counter : Text) (trace : List Activity) : Nat := trace.countP (·.adds counter)

theorem additions_measurements (counter : Text) (trace : List Activity) :
    additions counter (measurements trace) = additions counter trace :=
  countP_filter_of Activity.isMeasurement_of_adds trace

@[simp] theorem Activity.adds_log (counter : Text) (level : Level) (logger message : Text) :
    (log level logger message).adds counter = false := rfl

@[simp] theorem Activity.adds_send (counter line : Text) : (send line).adds counter = false := rfl

theorem additions_append (counter : Text) (first second : List Activity) :
    additions counter (first ++ second) = additions counter first + additions counter second :=
  List.countP_append

@[simp] theorem additions_nil (counter : Text) : additions counter [] = 0 := rfl

@[simp] theorem additions_cons (counter : Text) (a : Activity) (trace : List Activity) :
    additions counter (a :: trace) = (a.adds counter).toNat + additions counter trace := by
  rw [additions, additions, List.countP_cons]
  cases a.adds counter <;> simp [Nat.add_comm]

namespace Metric

variable (counter name method : Text)

@[simp] theorem adds_counted : (counted name method).adds counter = decide (name = counter) := rfl

@[simp] theorem adds_errorCounted (type : ErrorType) :
    (errorCounted type method).adds counter = decide (errors = counter) := rfl

theorem requests_ne_success : requests ≠ success := by decide +kernel

theorem requests_ne_errors : requests ≠ errors := by decide +kernel

theorem success_ne_errors : success ≠ errors := by decide +kernel

end Metric

namespace Client

theorem additions_dialed (counter : Text) (endpoint : Endpoint) (f : Fault) (notes : List Activity) :
    additions counter (endpoint.dialTrace ++ endpoint.cleanupTrace f ++ notes) =
      additions counter notes := by
  rw [← additions_measurements, measurements, filter_dialed Activity.isMeasurement_of_isRoutine,
    ← measurements, additions_measurements]

theorem additions_connected (counter : Text) (endpoint : Endpoint) (c : Connection)
    (body : List Activity) :
    additions counter (endpoint.dialTrace ++ [endpoint.connected] ++ (body ++ c.closeTrace)) =
      additions counter body := by
  rw [← additions_measurements, measurements, filter_connected Activity.isMeasurement_of_isRoutine,
    ← measurements, additions_measurements]

@[simp] theorem adds_timed (counter method : Text) (elapsed : Number) :
    (timed method elapsed).adds counter = false := rfl

/-- A call that opens its connection counts a request and in the end a success or an error, unless its
parameters cannot be written; then it counts nothing. -/
theorem Measured.balance {world : World} {clock : SystemClock} {method : Text}
    {params : List Param} {ended : Except Failure Json} {counted : List Activity}
    (h : Measured world clock method params ended counted) :
    additions Metric.requests counted + world.connectFault.isSome.toNat =
      additions Metric.success counted + additions Metric.errors counted := by
  have hrs := Metric.requests_ne_success
  have hre := Metric.requests_ne_errors
  have hse := Metric.success_ne_errors
  cases h with
  | unconnected hconnect he => simp [hconnect, hre.symm, hse.symm]
  | unwritten hconnect hrequest => simp [hconnect]
  | unanswered hasked hreceived he => simp [hasked.connect, hrs, hre, hre.symm, hse.symm]
  | answered hasked hreceived hverdict =>
    cases hverdict with
    | accepted value => simp [hasked.connect, hrs, hre, hrs.symm, hse]
    | unparsed he hline => simp [hasked.connect, hrs, hre, hre.symm, hse.symm]
    | reported he hline herror => simp [hasked.connect, hrs, hre, hre.symm, hse.symm]

end Client

end SupervisorRpc
