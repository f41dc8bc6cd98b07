import SupervisorRpc.Proofs.Client.Run

/-! The order of the activities of a call.  All of them lie in one span, which ends with the class of
the failure that leaves the call.  A connection that was opened is closed, the reader before the
socket and each once, on every way through the call; nothing is sent after that, and at most one
request before. -/

namespace SupervisorRpc

theorem Response.Reading.isNote {limit : Nat} {method : Text} {raw : List UInt8}
    {ended : Except Failure Json} {trace : List Activity}
    (h : Reading limit method raw ended trace) :
    ∀ a ∈ trace, a.isNote = true := by
  cases h <;> simp [Activity.isNote, Metric.counted, Metric.errorCounted]

namespace Client

/-- The reader is closed once and after it the socket once; at most one line is sent before, and none
after. -/
def ClosedOnce (trace : List Activity) : Prop :=
  ∃ before between after, trace = before ++ .closeReader :: (between ++ .closeSocket :: after) ∧
    (∀ a ∈ before ++ between ++ after, a.isClosing = false) ∧
    before.countP Activity.isSend ≤ 1 ∧ ∀ a ∈ between ++ after, a.isSend = false

variable {room : Nat} {method : Text} {params : List Param} {clock : Clock}

theorem isNote_askTrace (request : Text) : ∀ a ∈ askTrace method request, a.isNote = true := by
  simp [askTrace, Activity.isNote, Metric.counted]

theorem isNote_failureTrace (what : Text) (e : Failure) :
    ∀ a ∈ failureTrace method what e, a.isNote = true := by
  simp [failureTrace, Activity.isNote, Metric.errorCounted]

theorem isNote_osNotes (what : Text) (ended : Except Failure Json) :
    ∀ a ∈ Act.osNotes (failureTrace method what) ended, a.isNote = true := by
  cases ended with
  | ok _ => simp [Act.osNotes]
  | error e =>
    rw [Act.osNotes]
    split
    · exact isNote_failureTrace what e
    · simp

theorem countP_isSend_of_isNote {notes : List Activity} (h : ∀ a ∈ notes, a.isNote = true) :
    notes.countP Activity.isSend = 0 := by
  rw [List.countP_eq_zero]
  intro a ha
  rw [Activity.isSend_of_isNote (h a ha)]
  decide

/-- An exchange only takes notes, but for the request that it may send. -/
theorem Exchanged.trace_eq {sendFault : Option Fault} {answer : LineEnd}
    {ended : Except Failure Json} {trace : List Activity}
    (h : Exchanged room method params clock sendFault answer ended trace) :
    ∃ asked sent noted, trace = asked ++ sent ++ noted ∧
      (sent = [] ∨ ∃ request, requestLine room method params = .ok request ∧
        sent = [.send (request ++ [point '\n'])]) ∧
      (∀ a ∈ asked, a.isNote = true) ∧ ∀ a ∈ noted, a.isNote = true := by
  cases h with
  | unwritten _ => exact ⟨[], [], [], rfl, .inl rfl, by simp, by simp⟩
  | @unsent request _ _ _ =>
    refine ⟨askTrace method request, [], [], ?_, .inl rfl, isNote_askTrace request, by simp⟩
    simp
  | @unanswered request _ hrequest _ _ =>
    refine ⟨askTrace method request, _, [], ?_, .inr ⟨request, hrequest, rfl⟩,
      isNote_askTrace request, by simp⟩
    simp [sendTrace]
  | @untimed request _ hrequest _ _ _ =>
    refine ⟨askTrace method request, _, [], ?_, .inr ⟨request, hrequest, rfl⟩,
      isNote_askTrace request, by simp⟩
    simp [sendTrace]
  | @untold request _ elapsed hrequest _ _ _ _ =>
    refine ⟨askTrace method request, _, [timed method elapsed], rfl,
      .inr ⟨request, hrequest, rfl⟩, isNote_askTrace request, ?_⟩
    simp [timed, Activity.isNote]
  | @answered request line elapsed shown hrequest _ _ _ _ =>
    refine ⟨askTrace method request, _, [timed method elapsed, told shown] ++ _,
      List.append_assoc _ _ _, .inr ⟨request, hrequest, rfl⟩, isNote_askTrace request, ?_⟩
    intro a ha
    rcases List.mem_append.mp ha with ha | ha
    · simp only [List.mem_cons, List.not_mem_nil, or_false] at ha
      rcases ha with rfl | rfl <;> rfl
    · exact (Response.reading (room + 1) method line).isNote a ha

theorem Exchanged.isNote_or_send {sendFault : Option Fault} {answer : LineEnd}
    {ended : Except Failure Json} {trace : List Activity}
    (h : Exchanged room method params clock sendFault answer ended trace) :
    ∀ a ∈ trace, a.isNote = true ∨ ∃ line, a = .send line := by
  obtain ⟨asked, sent, noted, rfl, hsent, hasked, hnoted⟩ := h.trace_eq
  intro a ha
  rcases List.mem_append.mp ha with ha | ha
  · rcases List.mem_append.mp ha with ha | ha
    · exact .inl (hasked a ha)
    · rcases hsent with rfl | ⟨request, -, rfl⟩
      · cases ha
      · exact .inr ⟨_, List.mem_singleton.mp ha⟩
  · exact .inl (hnoted a ha)

/-- What an exchange does keeps the connection open, sends one line at most, and ends no span. -/
theorem Exchanged.harmless {sendFault : Option Fault} {answer : LineEnd}
    {ended : Except Failure Json} {trace : List Activity}
    (h : Exchanged room method params clock sendFault answer ended trace) :
    (∀ a ∈ trace, a.isClosing = false) ∧ (∀ a ∈ trace, a.isSpanEnd = false) ∧
      trace.countP Activity.isSend ≤ 1 := by
  have hmem := h.isNote_or_send
  obtain ⟨asked, sent, noted, rfl, hsent, hasked, hnoted⟩ := h.trace_eq
  refine ⟨fun a ha => ?_, fun a ha => ?_, ?_⟩
  · rcases hmem a ha with hnote | ⟨line, rfl⟩
    · exact Activity.isClosing_of_isNote hnote
    · rfl
  · rcases hmem a ha with hnote | ⟨line, rfl⟩
    · exact Activity.isSpanEnd_of_isNote hnote
    · rfl
  · rw [List.countP_append, List.countP_append, countP_isSend_of_isNote hasked,
      countP_isSend_of_isNote hnoted]
    rcases hsent with rfl | ⟨request, -, rfl⟩ <;> simp [Activity.isSend]

theorem dialTrace_harmless (endpoint : Endpoint) : ∀ a ∈ endpoint.dialTrace ++ [endpoint.connected],
    a.isSend = false ∧ a.isClosing = false ∧ a.isSpanEnd = false := by
  unfold Endpoint.dialTrace
  split <;>
    simp [Endpoint.connected, Activity.isSend, Activity.isClosing, Activity.isSpanEnd]

theorem cleanupTrace_harmless (endpoint : Endpoint) (f : Fault) : ∀ a ∈ endpoint.cleanupTrace f,
    a.isSend = false ∧ a ≠ .closeReader ∧ a.isSpanEnd = false := by
  unfold Endpoint.cleanupTrace
  split <;> simp [Activity.isSend, Activity.isSpanEnd]

theorem isSpanEnd_closeTrace (c : Connection) : ∀ a ∈ c.closeTrace, a.isSpanEnd = false := by
  unfold Connection.closeTrace
  split <;> simp [Activity.isSpanEnd]

theorem ClosedOnce.countP_isSend {trace : List Activity} (h : ClosedOnce trace) :
    trace.countP Activity.isSend ≤ 1 := by
  obtain ⟨before, between, after, rfl, -, hbefore, hlater⟩ := h
  have hnone : (between ++ after).countP Activity.isSend = 0 :=
    List.countP_eq_zero.mpr fun a ha => by simp [hlater a ha]
  rw [List.countP_append] at hnone
  have hreader : Activity.isSend .closeReader = false := rfl
  have hsocket : Activity.isSend .closeSocket = false := rfl
  simp only [List.countP_append, List.countP_cons, hreader, hsocket, Bool.false_eq_true, if_false]
  omega

theorem closedOnce_closeTrace (c : Connection) {before : List Activity}
    (hclosing : ∀ a ∈ before, a.isClosing = false) (hsend : before.countP Activity.isSend ≤ 1) :
    ClosedOnce (before ++ c.closeTrace) := by
  refine ⟨before, [], _, rfl, ?_, hsend, ?_⟩
  · intro a ha
    rcases List.mem_append.mp ha with ha | ha
    · exact hclosing a (by simpa using ha)
    · split at ha
      · cases ha
      · rw [List.mem_singleton.mp ha]
        rfl
  · intro a ha
    split at ha
    · cases ha
    · rw [List.mem_singleton.mp ha]
      rfl

variable (endpoint : Endpoint) (world : World) (clock : Clock) (method : Text)
  (params : List Param)

/-- Where connecting fails, nothing is sent and no reader is closed. -/
theorem inSpan_trace_fault {f : Fault} (h : world.connectFault = some f) :
    ∀ a ∈ (inSpan endpoint world clock method params ()).trace,
      a.isSend = false ∧ a ≠ .closeReader ∧ a.isSpanEnd = false := by
  rw [inSpan_run_fault h]
  intro a ha
  rcases List.mem_append.mp ha with ha | ha
  · rcases List.mem_append.mp ha with ha | ha
    · obtain ⟨hsend, hclosing, hspan⟩ :=
        dialTrace_harmless endpoint a (List.mem_append_left _ ha)
      refine ⟨hsend, ?_, hspan⟩
      rintro rfl
      cases hclosing
    · exact cleanupTrace_harmless endpoint f a ha
  · have hnote := isNote_osNotes _ _ a ha
    refine ⟨Activity.isSend_of_isNote hnote, ?_, Activity.isSpanEnd_of_isNote hnote⟩
    rintro rfl
    cases hnote

/-- Where connecting succeeds, the connection is closed once, and no span ends before the call
does. -/
theorem inSpan_trace (h : world.connectFault = none) :
    ClosedOnce (inSpan endpoint world clock method params ()).trace ∧
      ∀ a ∈ (inSpan endpoint world clock method params ()).trace, a.isSpanEnd = false := by
  obtain ⟨ended, trace, hexchanged, hrun⟩ := inSpan_exchanged endpoint clock method params h
  rw [hrun]
  obtain ⟨hclosing, hspan, hsend⟩ := hexchanged.harmless
  have hdial := dialTrace_harmless endpoint
  have hnote : ∀ a ∈ Act.osNotes (failureTrace method (exchangeFailed endpoint method)) ended,
      a.isNote = true := isNote_osNotes _ ended
  constructor
  · -- All that comes before the closing counts as one stretch of activities.
    rw [← List.append_assoc]
    apply closedOnce_closeTrace
    · intro a ha
      rcases List.mem_append.mp ha with ha | ha
      · exact (hdial a ha).2.1
      rcases List.mem_append.mp ha with ha | ha
      · exact hclosing a ha
      · exact Activity.isClosing_of_isNote (hnote a ha)
    · have hdialed : (endpoint.dialTrace ++ [endpoint.connected]).countP Activity.isSend = 0 :=
        List.countP_eq_zero.mpr fun a ha => by simp [(hdial a ha).1]
      have hnoted := countP_isSend_of_isNote hnote
      rw [List.countP_append, hdialed, List.countP_append, hnoted]
      omega
  · intro a ha
    rcases List.mem_append.mp ha with ha | ha
    · exact (hdial a ha).2.2
    rcases List.mem_append.mp ha with ha | ha
    · rcases List.mem_append.mp ha with ha | ha
      · exact hspan a ha
      · exact Activity.isSpanEnd_of_isNote (hnote a ha)
    · exact isSpanEnd_closeTrace world.opened a ha

/-- The activities of a call, whatever its endpoint, world, clock, name and parameters are: they lie
in one span, and a connection that was opened is closed in good order. -/
theorem call_trace (name : Text) :
    let outcome := call endpoint world clock name params ()
    ∃ inner, outcome.trace =
        .tracer "gonit_api" ::
          .spanStart (text "rpc.client " ++ Method.wireName name)
            [("rpc.method", .string (Method.wireName name)),
              ("server.address", .string endpoint.label)] ::
          (inner ++ [.spanEnd outcome.failureClass?]) ∧
      (∀ a ∈ inner, a.isSpanEnd = false) ∧
      match (endpoint.record.connect world ()).result with
      | .ok _ => ClosedOnce inner
      | .error _ => ∀ a ∈ inner, a.isSend = false ∧ a ≠ .closeReader := by
  intro outcome
  have houtcome : outcome = _ := congrFun (call_eq endpoint world clock name params) ()
  rw [Act.span_run] at houtcome
  refine ⟨(inSpan endpoint world clock (Method.wireName name) params ()).trace, ?_, ?_⟩
  · rw [houtcome]
    rfl
  cases hconnect : world.connectFault with
  | some f =>
    have hinner :=
      inSpan_trace_fault endpoint world clock (Method.wireName name) params hconnect
    rw [Endpoint.connect_run_fault hconnect]
    exact ⟨fun a ha => (hinner a ha).2.2, fun a ha => ⟨(hinner a ha).1, (hinner a ha).2.1⟩⟩
  | none =>
    obtain ⟨hclosed, hspan⟩ :=
      inSpan_trace endpoint world clock (Method.wireName name) params hconnect
    rw [Endpoint.connect_run hconnect]
    exact ⟨hspan, hclosed⟩

/-- Inside its span a call traces no other span. -/
theorem inSpan_isTracing : ∀ a ∈ (inSpan endpoint world clock method params ()).trace,
    a.isTracing = false := by
  have hdial : ∀ a ∈ endpoint.dialTrace, a.isTracing = false := by
    unfold Endpoint.dialTrace
    split <;> simp [Activity.isTracing]
  intro a ha
  cases hconnect : world.connectFault with
  | some f =>
    have hcleanup : ∀ a ∈ endpoint.cleanupTrace f, a.isTracing = false := by
      unfold Endpoint.cleanupTrace
      split <;> simp [Activity.isTracing]
    rw [inSpan_run_fault hconnect] at ha
    rcases List.mem_append.mp ha with ha | ha
    · exact (List.mem_append.mp ha).elim (hdial a) (hcleanup a)
    · exact Activity.isTracing_of_isNote (isNote_osNotes _ _ a ha)
  | none =>
    obtain ⟨ended, trace, hexchanged, hrun⟩ :=
      inSpan_exchanged endpoint clock method params hconnect
    have hclose : ∀ a ∈ world.opened.closeTrace, a.isTracing = false := by
      unfold Connection.closeTrace
      split <;> simp [Activity.isTracing]
    rw [hrun] at ha
    rcases List.mem_append.mp ha with ha | ha
    · rcases List.mem_append.mp ha with ha | ha
      · exact hdial a ha
      · rw [List.mem_singleton.mp ha]
        rfl
    rcases List.mem_append.mp ha with ha | ha
    · rcases List.mem_append.mp ha with ha | ha
      · rcases hexchanged.isNote_or_send a ha with hnote | ⟨line, rfl⟩
        · exact Activity.isTracing_of_isNote hnote
        · rfl
      · exact Activity.isTracing_of_isNote (isNote_osNotes _ _ a ha)
    · exact hclose a ha

/-- A call starts one span. -/
theorem call_isSpanStart (name : Text) :
    (call endpoint world clock name params ()).trace.countP Activity.isSpanStart = 1 := by
  have hinner : (inSpan endpoint world clock (Method.wireName name) params ()).trace.countP
      Activity.isSpanStart = 0 := by
    rw [List.countP_eq_zero]
    intro a ha
    have hnone := inSpan_isTracing endpoint world clock (Method.wireName name) params a ha
    simp [Activity.isSpanStart_of_isTracing hnone]
  rw [call_eq, Act.span_run]
  simp only [List.countP_cons, List.countP_append, hinner]
  rfl

end Client

end SupervisorRpc
