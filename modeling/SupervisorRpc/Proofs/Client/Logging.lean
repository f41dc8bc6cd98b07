import SupervisorRpc.Proofs.Client.Metrics

/-! What a call writes about the failures that it counts.  `Noted` lists what there may be of them in the
log and in the counts: nothing, an error line with the count behind it, or a count alone.  The main
statement says that a call logs as many errors as it counts, with one exception: an answer that is a
JSON value but no object is counted and not logged. -/

namespace SupervisorRpc

namespace Activity

/-- A line of the client's log about an error. -/
def isErrorLine : Activity → Bool
  | .log .error name _ => name = Client.logger
  | _ => false

/-- An error that is logged or counted. -/
def isReport (a : Activity) : Bool := a.isErrorLine || a.adds Metric.errors

theorem isReport_of_isTracing {a : Activity} (h : a.isTracing = true) : a.isReport = false := by
  cases a <;> first | rfl | cases h

theorem isReport_of_isRoutine {a : Activity} (h : a.isRoutine = true) : a.isReport = false := by
  cases a with
  | log level name message =>
    obtain rfl : level = .debug := of_decide_eq_true h
    rfl
  | _ => first | rfl | cases h

@[simp] theorem isReport_debugLine (name message : Text) :
    isReport (.log .debug name message) = false := rfl

@[simp] theorem isReport_counted (counter method : Text) :
    isReport (Metric.counted counter method) = decide (counter = Metric.errors) := rfl

end Activity

/-- How many errors activities write to the client's log. -/
def errorLines (trace : List Activity) : Nat := trace.countP Activity.isErrorLine

/-- The errors among activities that are logged or counted. -/
def reports (trace : List Activity) : List Activity := trace.filter Activity.isReport

theorem reports_append (first second : List Activity) :
    reports (first ++ second) = reports first ++ reports second :=
  List.filter_append first second

theorem errorLines_reports (trace : List Activity) : errorLines (reports trace) = errorLines trace :=
  countP_filter_of (fun h => by simp [Activity.isReport, h]) trace

theorem additions_reports (trace : List Activity) :
    additions Metric.errors (reports trace) = additions Metric.errors trace :=
  countP_filter_of (fun h => by simp [Activity.isReport, h]) trace

namespace Client

/-- A call ends with the complaint that the response is no object. -/
def NoObject (ended : Except Failure Json) : Prop := ∃ line, ended = .error (.rpc (.notObject line))

/-- What is logged and counted of the failure that a call ends with. -/
inductive Noted (method : Text) (ended : Except Failure Json) : List Activity → Prop
  | silent (h : ¬NoObject ended) : Noted method ended []
  | logged (h : ¬NoObject ended) (message : Text) (type : ErrorType) :
      Noted method ended [.log .error logger message, Metric.errorCounted type method]
  | unlogged (h : NoObject ended) : Noted method ended [Metric.errorCounted .parse method]

variable {method : Text} {params : List Param} {clock : Clock} {ended : Except Failure Json}
  {trace : List Activity}

theorem not_noObject {e : Failure} (h : ∀ line, e ≠ .rpc (.notObject line)) :
    ¬NoObject (.error e) := by
  rintro ⟨line, hline⟩
  exact h line (Except.error.inj hline)

/-- After a failure of the operating system there is a line of the log with the count behind it. -/
theorem noted_osNotes (h : ¬NoObject ended) (what : Text) (failed : Except Failure Json) :
    Noted method ended (reports (Act.osNotes (failureTrace method what) failed)) := by
  cases failed with
  | ok value => exact .silent h
  | error e =>
    rw [Act.osNotes]
    split
    · exact .logged h _ .io
    · exact .silent h

theorem reports_askTrace (request : Text) : reports (askTrace method request) = [] := by
  simp [reports, askTrace, Metric.requests_ne_errors]

theorem reports_sendTrace (request : Text) : reports (sendTrace method request) = [] := by
  rw [sendTrace, reports_append, reports_askTrace]
  rfl

end Client

theorem Response.Reading.noted {limit : Nat} {method : Text} {raw : List UInt8}
    {ended : Except Failure Json} {trace : List Activity}
    (h : Reading limit method raw ended trace) :
    Client.Noted method ended (reports trace) := by
  cases h with
  | tooDeep _ => exact .silent (Client.not_noObject (by simp))
  | unreadable _ _ => exact .logged (Client.not_noObject (by simp)) _ .parse
  | accepted _ _ =>
    have hnone : reports [Metric.counted Metric.success method] = [] := by
      simp [reports, Metric.success_ne_errors]
    rw [hnone]
    exact .silent nofun
  | reported _ _ => exact .logged (Client.not_noObject (by simp)) _ .rpc
  | notObject _ _ => exact .unlogged ⟨_, rfl⟩

/-- The complaint is about the lines that are a JSON value and no object, and no others. -/
theorem Response.Reading.noObject_iff {limit : Nat} {method : Text} {raw : List UInt8}
    {ended : Except Failure Json} {trace : List Activity}
    (h : Reading limit method raw ended trace) :
    Client.NoObject ended ↔
      ∃ value, decode limit raw = .ok value ∧ ∀ members, value ≠ .object members := by
  cases h with
  | tooDeep hdecode | unreadable hdecode _ | accepted hdecode _ | reported hdecode _ =>
    simp [Client.NoObject, hdecode]
  | notObject hdecode hvalue => exact ⟨fun _ => ⟨_, hdecode, hvalue⟩, fun _ => ⟨_, rfl⟩⟩

theorem LineEnd.ne_rpc {answer : LineEnd} {e : Failure} (h : answer.result = .error e)
    (r : RpcError) : e ≠ .rpc r := by
  cases answer with
  | line bytes => cases h
  | truncated bytes | fault f =>
    obtain rfl := Except.error.inj h
    simp

namespace Client

theorem unwritten_ne_rpc {room : Nat} {params : List Param} {e : Failure}
    (h : params.mapM (Param.writable room) = .error e) (r : RpcError) : e ≠ .rpc r := by
  rcases unwritten_cases h with rfl | ⟨excess, rfl⟩ <;> simp

/-- An exchange logs each error that it counts, those of the operating system after it included, unless
the response is no object. -/
theorem Exchanged.noted {room : Nat} {sendFault : Option Fault} {answer : LineEnd}
    (h : Exchanged room method params clock sendFault answer ended trace) (what : Text) :
    Noted method ended (reports (trace ++ Act.osNotes (failureTrace method what) ended)) := by
  rw [reports_append]
  cases h with
  | unwritten hrequest =>
    have hvalues := requestLine_eq_error_iff.mp hrequest
    rw [osNotes_of_mapM_writable hvalues]
    exact .silent (not_noObject fun line => unwritten_ne_rpc hvalues _)
  | unsent _ _ =>
    rw [reports_askTrace]
    exact noted_osNotes (not_noObject (by simp)) what _
  | unanswered _ _ hanswer =>
    rw [reports_sendTrace]
    exact noted_osNotes (not_noObject fun line => LineEnd.ne_rpc hanswer _) what _
  | untimed _ _ _ _ =>
    rw [reports_sendTrace]
    exact noted_osNotes (not_noObject (by simp)) what _
  | untold _ _ _ _ _ =>
    rw [reports_append, reports_sendTrace]
    exact noted_osNotes (not_noObject (by simp)) what _
  | @answered request line elapsed shown _ _ _ _ _ =>
    -- What the reading of the response logs and counts is all there is.
    have hreading := Response.reading (room + 1) method line
    have htimed : reports [timed method elapsed, told shown] = [] := rfl
    have hnone : reports [] = [] := rfl
    rw [reports_append, reports_append, reports_sendTrace, htimed, hreading.osNotes_eq_nil, hnone,
      List.append_nil]
    exact hreading.noted

variable {world : World}

/-- The call receives a JSON value that is no object. -/
def Unexpected (world : World) (params : List Param) : Prop :=
  ∃ line value, received world params = .ok line ∧
    Response.decode world.limit line = .ok value ∧ ∀ members, value ≠ .object members

theorem received_ne_rpc {e : Failure} (h : received world params = .error e) (r : RpcError) :
    e ≠ .rpc r := by
  rcases received_error_cases h with ⟨f, -, rfl⟩ | hvalues | ⟨f, -, rfl⟩ | hanswer
  · simp
  · exact unwritten_ne_rpc hvalues r
  · simp
  · exact LineEnd.ne_rpc hanswer r

theorem noObject_concluded_iff (world : World) (method : Text) (params : List Param) :
    NoObject (concluded world method params) ↔ Unexpected world params := by
  unfold Unexpected
  cases hreceived : received world params with
  | error e =>
    have hended : concluded world method params = .error e := by
      rw [concluded, hreceived]
      rfl
    have hother : ¬NoObject (.error e) := not_noObject fun line => received_ne_rpc hreceived _
    simpa [hended] using hother
  | ok line =>
    have hended : concluded world method params =
        (Response.read world.limit method line ()).result := by
      rw [concluded, hreceived]
      rfl
    have hread := (Response.reading world.limit method line).noObject_iff
    simpa [hended] using hread

/-- A call logs and counts what its stages say, whatever closing raises. -/
theorem call_noted (endpoint : Endpoint) (world : World) (clock : SystemClock) (name : Text)
    (params : List Param) :
    Noted (Method.wireName name) (concluded world (Method.wireName name) params)
      (reports (call endpoint world clock name params ()).trace) := by
  rw [reports, call_filter endpoint world clock name params Activity.isReport_of_isTracing,
    ← reports]
  cases hconnect : world.connectFault with
  | some f =>
    have hended : concluded world (Method.wireName name) params = .error (.fault f) := by
      rw [concluded, received, hconnect]
      rfl
    rw [inSpan_run_fault hconnect]
    dsimp only
    rw [reports, filter_dialed Activity.isReport_of_isRoutine, ← reports, hended]
    exact noted_osNotes (not_noObject (by simp)) _ _
  | none =>
    obtain ⟨ended, trace, hexchanged, hrun⟩ :=
      inSpan_exchanged endpoint clock (Method.wireName name) params hconnect
    rw [world.readLine_opened] at hexchanged
    have hended := hexchanged.ended_eq hconnect
    rw [hrun]
    dsimp only
    rw [reports, filter_connected Activity.isReport_of_isRoutine, ← reports, ← hended]
    exact hexchanged.noted _

theorem Noted.errorLines_eq (h : Noted method ended trace) (hobject : ¬NoObject ended) :
    errorLines trace = additions Metric.errors trace ∧ errorLines trace ≤ 1 := by
  cases h with
  | silent _ => exact ⟨rfl, Nat.zero_le 1⟩
  | logged _ message type => simp [errorLines, Activity.isErrorLine, Metric.errorCounted, Activity.adds]
  | unlogged h => exact absurd h hobject

theorem Noted.unlogged_counts (h : Noted method ended trace) (hobject : NoObject ended) :
    errorLines trace = 0 ∧ additions Metric.errors trace = 1 := by
  cases h with
  | silent h => exact absurd hobject h
  | logged h _ _ => exact absurd hobject h
  | unlogged _ => simp [errorLines, Activity.isErrorLine, Metric.errorCounted, Activity.adds]

/-- For every endpoint, world, clock, name and parameters, a call writes as many error lines as it
counts errors, at most one, unless it receives a JSON value that is no object: that counts as an error
and nothing is written about it. -/
theorem call_logs_errors (endpoint : Endpoint) (world : World) (clock : SystemClock) (name : Text)
    (params : List Param) :
    let trace := (call endpoint world clock name params ()).trace
    (¬Unexpected world params →
      errorLines trace = additions Metric.errors trace ∧ errorLines trace ≤ 1) ∧
    (Unexpected world params →
      errorLines trace = 0 ∧ additions Metric.errors trace = 1) := by
  intro trace
  have hnoted := call_noted endpoint world clock name params
  rw [← noObject_concluded_iff world (Method.wireName name) params, ← errorLines_reports,
    ← additions_reports]
  exact ⟨hnoted.errorLines_eq, hnoted.unlogged_counts⟩

/-- A daemon that closes the connection without a response: the error is written and counted. -/
theorem call_logs_errors_truncated :
    let endpoint : Endpoint := ⟨"/s", .unix "/s"⟩
    let world : World := ⟨none, none, [], none, none, 984⟩
    let trace := (call endpoint world [] "status" [] ()).trace
    ¬Unexpected world [] ∧ errorLines trace = additions Metric.errors trace ∧
      additions Metric.errors trace = 1 := by
  intro endpoint world trace
  have hexpected : ¬Unexpected world [] := by
    rintro ⟨line, value, hreceived, -⟩
    cases hreceived
  exact ⟨hexpected, ((call_logs_errors endpoint world [] "status" []).1 hexpected).1,
    by decide +kernel⟩

/-- An empty array for a response: an error is counted and none is written. -/
theorem call_logs_nothing :
    let endpoint : Endpoint := ⟨"tcp://h:1", .tcp "h" 1⟩
    let world : World := ⟨none, none, [.data [0x5B, 0x5D, 0x0A]], none, none, 984⟩
    let trace := (call endpoint world [] "status" [] ()).trace
    errorLines trace ≠ additions Metric.errors trace ∧ errorLines trace = 0 ∧
      additions Metric.errors trace = 1 := by
  decide +kernel

end Client

end SupervisorRpc
