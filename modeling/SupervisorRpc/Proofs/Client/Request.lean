import SupervisorRpc.Proofs.Client.Trace
import SupervisorRpc.Proofs.Report

/-! The request line.  Whatever a call sends is one line of ASCII, and reading that line as responses
are read gives the name of the method and the parameters back. -/

namespace SupervisorRpc

namespace Client

open Json

variable {room : Nat} {method : Text} {params : List Param} {clock : Clock}

theorem Exchanged.send_eq {sendFault : Option Fault} {answer : LineEnd}
    {ended : Except Failure Json} {trace : List Activity}
    (h : Exchanged room method params clock sendFault answer ended trace) {line : Text}
    (hline : .send line ∈ trace) :
    ∃ request, requestLine room method params = .ok request ∧
      line = request ++ [point '\n'] := by
  obtain ⟨asked, sent, noted, rfl, hsent, hasked, hnoted⟩ := h.trace_eq
  rcases List.mem_append.mp hline with hline | hline
  · rcases List.mem_append.mp hline with hline | hline
    · cases hasked _ hline
    · rcases hsent with rfl | ⟨request, hrequest, rfl⟩
      · cases hline
      · cases List.mem_singleton.mp hline
        exact ⟨request, hrequest, rfl⟩
  · cases hnoted _ hline

/-- A call sends nothing but its request. -/
theorem inSpan_send {endpoint : Endpoint} {world : World} {line : Text}
    (hline : .send line ∈ (inSpan endpoint world clock method params ()).trace) :
    ∃ request, requestLine world.room method params = .ok request ∧
      line = request ++ [point '\n'] := by
  cases hconnect : world.connectFault with
  | some f =>
    cases (inSpan_trace_fault endpoint world clock method params hconnect _ hline).1
  | none =>
    obtain ⟨ended, trace, hexchanged, hrun⟩ :=
      inSpan_exchanged endpoint clock method params hconnect
    rw [hrun] at hline
    rcases List.mem_append.mp hline with hline | hline
    · cases (dialTrace_harmless endpoint _ hline).1
    rcases List.mem_append.mp hline with hline | hline
    · rcases List.mem_append.mp hline with hline | hline
      · exact hexchanged.send_eq hline
      · cases isNote_osNotes _ _ _ hline
    · rw [Connection.closeTrace] at hline
      split at hline <;> simp at hline

theorem plain_request {values : List Json} (hname : method.Unpaired)
    (hvalues : Plain room (.array values)) :
    Plain (room + 1) (.object [("method", .string method), ("params", .array values)]) := by
  have hkeys : [text "method", text "params"].Nodup := by decide
  have hplain : ∀ key ∈ [text "method", text "params"], key.Unpaired := by decide
  refine .object hkeys ?_ ?_
  · intro m hm
    exact hplain m.1 (List.mem_map_of_mem (f := Prod.fst) hm)
  · intro m hm
    simp only [List.mem_cons, List.not_mem_nil, or_false] at hm
    rcases hm with rfl | rfl
    · exact .string hname
    · exact hvalues

/-- An exchange that meets no fault sends the request. -/
theorem Exchanged.sends {sendFault : Option Fault} {answer : LineEnd} {ended : Except Failure Json}
    {trace : List Activity} (h : Exchanged room method params clock sendFault answer ended trace)
    {request : Text} (hrequest : requestLine room method params = .ok request)
    (hsend : sendFault = none) : .send (request ++ [point '\n']) ∈ trace := by
  have hsent : .send (request ++ [point '\n']) ∈ sendTrace method request :=
    List.mem_append_right _ (List.mem_singleton.mpr rfl)
  cases h with
  | unwritten h => simp [h] at hrequest
  | unsent _ h => simp [h] at hsend
  | unanswered h _ _ | untimed h _ _ _ =>
    cases h.symm.trans hrequest
    exact hsent
  | untold h _ _ _ _ =>
    cases h.symm.trans hrequest
    exact List.mem_append_left _ hsent
  | answered h _ _ _ _ =>
    cases h.symm.trans hrequest
    exact List.mem_append_left _ (List.mem_append_left _ hsent)

/-- No exchange fails for want of an encoding. -/
theorem Exchanged.ended_ne_surrogates {sendFault : Option Fault} {answer : LineEnd}
    {ended : Except Failure Json} {trace : List Activity}
    (h : Exchanged room method params clock sendFault answer ended trace) (run : Utf8.SurrogateRun) :
    ended ≠ .error (.surrogates run) := by
  intro heq
  cases h with
  | unwritten hrequest =>
    cases heq
    rcases unwritten_cases (requestLine_eq_error_iff.mp hrequest) with h | ⟨excess, h⟩ <;> cases h
  | unsent _ _ | untimed _ _ _ _ | untold _ _ _ _ _ => cases heq
  | unanswered _ _ hanswer =>
    cases heq
    cases answer <;> cases hanswer
  | @answered _ line _ _ _ _ _ _ _ =>
    have hreading := Response.reading (room + 1) method line
    rw [heq] at hreading
    cases hreading

theorem inSpan_ne_surrogates (endpoint : Endpoint) (world : World) (clock : Clock) (method : Text)
    (params : List Param) (run : Utf8.SurrogateRun) :
    (inSpan endpoint world clock method params ()).result ≠ .error (.surrogates run) := by
  intro heq
  cases hconnect : world.connectFault with
  | some f =>
    rw [inSpan_run_fault hconnect] at heq
    cases heq
  | none =>
    obtain ⟨ended, trace, hexchanged, hrun⟩ :=
      inSpan_exchanged endpoint clock method params hconnect
    rw [hrun] at heq
    dsimp only at heq
    rw [Connection.ending] at heq
    split at heq
    · exact hexchanged.ended_ne_surrogates run heq
    · cases heq

theorem inSpan_sends {endpoint : Endpoint} {world : World} {request : Text}
    (hrequest : requestLine world.room method params = .ok request)
    (hconnect : world.connectFault = none) (hsend : world.sendFault = none) :
    .send (request ++ [point '\n']) ∈ (inSpan endpoint world clock method params ()).trace := by
  obtain ⟨ended, trace, hexchanged, hrun⟩ :=
    inSpan_exchanged endpoint clock method params hconnect
  have hmem := hexchanged.sends hrequest hsend
  rw [hrun]
  apply List.mem_append_right
  apply List.mem_append_left
  exact List.mem_append_left _ hmem

/-- The span of a call sends nothing itself. -/
theorem send_mem_call {endpoint : Endpoint} {world : World} {name line : Text} :
    .send line ∈ (call endpoint world clock name params ()).trace ↔
      .send line ∈ (inSpan endpoint world clock (Method.wireName name) params ()).trace := by
  rw [call_eq, Act.span_run]
  simp

/-- What a call sends is one line of ASCII that is read back as the method and the parameters.  It is
sent unless connecting or sending fails, and whatever the name and the parameters are, the request
has an encoding. -/
theorem call_sends_request (endpoint : Endpoint) (world : World) (clock : Clock) (name : Text)
    {values : List Json} (hname : (Method.wireName name).Unpaired)
    (hvalues : Plain world.room (.array values)) :
    let outcome := call endpoint world clock name (values.map .value) ()
    (∀ line, .send line ∈ outcome.trace →
      (∀ c ∈ line, c.isAscii = true) ∧
      ∃ body, line = body ++ [point '\n'] ∧ point '\n' ∉ body ∧
        Response.decode world.limit (Utf8.encode body) =
          .ok (.object [("method", .string (Method.wireName name)),
            ("params", .array values)])) ∧
    (world.connectFault = none → world.sendFault = none → ∃ line, .send line ∈ outcome.trace) ∧
    ∀ (other : Text) (params : List Param) (run : Utf8.SurrogateRun),
      (call endpoint world clock other params ()).result ≠ .error (.surrogates run) := by
  have hrequest := requestLine_values (Method.wireName name) (excess?_of_plain hvalues)
  refine ⟨?_, ?_, ?_⟩
  · intro line hline
    obtain ⟨request, hsent, rfl⟩ := inSpan_send (send_mem_call.mp hline)
    have hprintable := printable_request hsent
    cases hrequest.symm.trans hsent
    constructor
    · intro c hc
      rcases List.mem_append.mp hc with hc | hc
      · exact hprintable.isAscii c hc
      · rw [List.mem_singleton.mp hc]
        decide
    · exact ⟨_, rfl, hprintable.newline_notMem,
        Response.decode_encode_value compact_printable compact_readable (plain_request hname hvalues)⟩
  · intro hconnect hsend
    exact ⟨_, send_mem_call.mpr (inSpan_sends hrequest hconnect hsend)⟩
  · intro other params run
    rw [call_eq, Act.span_run]
    exact inSpan_ne_surrogates endpoint world clock (Method.wireName other) params run

/-- A parameter with a lone surrogate in a list in a list. -/
theorem call_sends_request_surrogate :
    let endpoint : Endpoint := ⟨"tcp://h:1", .tcp "h" 1⟩
    let world : World := ⟨none, none, [], none, none, 984⟩
    let values : List Json := [.array [.string [⟨0xD83D, by decide⟩], .number (.int (-12))]]
    ∃ body, .send (body ++ [point '\n']) ∈
        (call endpoint world [] "stop_all" (values.map .value) ()).trace ∧
      Response.decode world.limit (Utf8.encode body) =
        .ok (.object [("method", .string "API.StopAll"), ("params", .array values)]) := by
  have hname : (Method.wireName "stop_all").Unpaired := by decide
  have hvalues : Plain 984
      (.array [.array [.string [⟨0xD83D, by decide⟩], .number (.int (-12))]]) := by
    refine .array (List.forall_mem_singleton.mpr (.array ?_))
    intro v hv
    simp only [List.mem_cons, List.not_mem_nil, or_false] at hv
    rcases hv with rfl | rfl
    · exact .string (by decide)
    · exact .integer (by decide)
  obtain ⟨hline, hsent, -⟩ :=
    call_sends_request ⟨"tcp://h:1", .tcp "h" 1⟩ ⟨none, none, [], none, none, 984⟩ [] "stop_all" hname
      hvalues
  obtain ⟨line, hmem⟩ := hsent rfl rfl
  obtain ⟨-, body, rfl, -, hdecode⟩ := hline line hmem
  exact ⟨body, hmem, hdecode⟩

/-- An exchange that ends in a value had a request and met no fault in sending it. -/
theorem Exchanged.of_ok {sendFault : Option Fault} {answer : LineEnd} {ended : Except Failure Json}
    {trace : List Activity} (h : Exchanged room method params clock sendFault answer ended trace)
    {value : Json} (hended : ended = .ok value) :
    sendFault = none ∧ ∃ request, requestLine room method params = .ok request := by
  cases h with
  | answered hrequest hsend _ _ _ => exact ⟨hsend, _, hrequest⟩
  | unwritten _ | unsent _ _ | unanswered _ _ _ | untimed _ _ _ _ | untold _ _ _ _ _ =>
    cases hended

/-- A call that gives a value has sent one request. -/
theorem call_isSend_of_ok {endpoint : Endpoint} {world : World} {name : Text} {value : Json}
    (h : (call endpoint world clock name params ()).result = .ok value) :
    (call endpoint world clock name params ()).trace.countP Activity.isSend = 1 := by
  have hresult : (inSpan endpoint world clock (Method.wireName name) params ()).result =
      .ok value := h
  have hcount : (call endpoint world clock name params ()).trace.countP Activity.isSend =
      (inSpan endpoint world clock (Method.wireName name) params ()).trace.countP
        Activity.isSend := by
    rw [List.countP_eq_length_filter, List.countP_eq_length_filter,
      call_filter endpoint world clock name params Activity.isSend_of_isTracing]
  cases hconnect : world.connectFault with
  | some f =>
    rw [inSpan_run_fault hconnect] at hresult
    cases hresult
  | none =>
    obtain ⟨ended, trace, hexchanged, hrun⟩ :=
      inSpan_exchanged endpoint clock (Method.wireName name) params hconnect
    have hended : ended = .ok value := by
      rw [hrun] at hresult
      dsimp only at hresult
      rw [Connection.ending] at hresult
      split at hresult
      · exact hresult
      · cases hresult
    obtain ⟨hsend, request, hrequest⟩ := hexchanged.of_ok hended
    have hmem : .send (request ++ [point '\n']) ∈
        (inSpan endpoint world clock (Method.wireName name) params ()).trace :=
      inSpan_sends hrequest hconnect hsend
    have hpos := List.countP_pos_iff (p := Activity.isSend).mpr ⟨_, hmem, rfl⟩
    have hle := (inSpan_trace endpoint world clock (Method.wireName name) params
      hconnect).1.countP_isSend
    omega

end Client

end SupervisorRpc
