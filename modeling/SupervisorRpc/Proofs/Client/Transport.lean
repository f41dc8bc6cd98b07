import SupervisorRpc.Proofs.Client.Run

/-! The two transports.  Over a host and port and over a socket path a call does the same, but for
dialing and for what names the endpoint.  The one difference beyond that is a socket path that cannot
be connected: there the socket is closed at once, and if that fails too, the call ends with the fault
of closing. -/

namespace SupervisorRpc

/-- An activity without the text of a log line. -/
def Activity.wordless : Activity → Activity
  | .log level logger _ => .log level logger []
  | a => a

namespace Endpoint

/-- What dialing an endpoint comes to in a world, the clean-up after a fault included. -/
def dialing (e : Endpoint) (w : World) : List Activity :=
  e.dialTrace ++ w.connectFault.elim [] e.cleanupTrace

/-- The world as a call at the endpoint meets it: a fault of cleaning up stands in the place of the
fault of connecting. -/
def met (e : Endpoint) (w : World) : World :=
  { w with connectFault := w.connectFault.map (e.dialFault w) }

variable {w : World}

theorem dialing_of_connected (e : Endpoint) (h : w.connectFault = none) :
    e.dialing w = e.dialTrace := by
  rw [dialing, h]
  exact List.append_nil _

theorem dialing_of_fault (e : Endpoint) {f : Fault} (h : w.connectFault = some f) :
    e.dialing w = e.dialTrace ++ e.cleanupTrace f := by
  rw [dialing, h]
  rfl

theorem met_of_connected (e : Endpoint) (h : w.connectFault = none) : e.met w = w := by
  rw [met, h, Option.map_none, ← h]

theorem met_of_fault (e : Endpoint) {f : Fault} (h : w.connectFault = some f) :
    e.met w = { w with connectFault := some (e.dialFault w f) } := by
  rw [met, h]
  rfl

theorem met_tcp (url host : Text) (port : Nat) (w : World) :
    (⟨url, .tcp host port⟩ : Endpoint).met w = w := by
  cases h : w.connectFault with
  | none => exact met_of_connected _ h
  | some f =>
    rw [met_of_fault _ h]
    show { w with connectFault := some f } = w
    rw [← h]

/-- Only a fault of cleaning up tells the world of a call from the world as it is. -/
theorem met_cases (e : Endpoint) (w : World) :
    e.met w = w ∨ ∃ f cleanup, w.connectFault = some f ∧ e.cleansUp f = true ∧
      w.socketFault = some cleanup ∧ e.met w = { w with connectFault := some cleanup } := by
  cases h : w.connectFault with
  | none => exact .inl (met_of_connected e h)
  | some f =>
    have hmet := met_of_fault e h
    have hsame : { w with connectFault := some f } = w := by rw [← h]
    cases hclean : e.cleansUp f with
    | false =>
      left
      rw [hmet, dialFault, hclean]
      exact hsame
    | true =>
      cases hsocket : w.socketFault with
      | none =>
        left
        rw [hmet, dialFault_of_none hsocket]
        exact hsame
      | some cleanup =>
        refine .inr ⟨f, cleanup, rfl, hclean, rfl, ?_⟩
        rw [hmet, dialFault, hclean, hsocket]
        rfl

end Endpoint

namespace Client

variable {endpoint endpoint' : Endpoint} {world world' : World} {clock : Clock} {method : Text}
  {params : List Param}

theorem map_wordless_osNotes (what what' : Text) (ended : Except Failure Json) :
    (Act.osNotes (failureTrace method what) ended).map Activity.wordless =
      (Act.osNotes (failureTrace method what') ended).map Activity.wordless := by
  cases ended with
  | ok value => rfl
  | error e =>
    rw [Act.osNotes, Act.osNotes]
    split <;> rfl

/-- Calls at two endpoints that meet the same world end the same, and do the same but for dialing and
the texts of log lines. -/
theorem inSpan_met (h : endpoint.met world = endpoint'.met world') (clock : Clock) (method : Text)
    (params : List Param) :
    let outcome := inSpan endpoint world clock method params ()
    let outcome' := inSpan endpoint' world' clock method params ()
    outcome.result = outcome'.result ∧ ∃ body body',
      outcome.trace = endpoint.dialing world ++ body ∧
        outcome'.trace = endpoint'.dialing world' ++ body' ∧
          body.map Activity.wordless = body'.map Activity.wordless := by
  intro outcome outcome'
  have hconnect : world.connectFault.map (endpoint.dialFault world) =
      world'.connectFault.map (endpoint'.dialFault world') :=
    congrArg World.connectFault h
  cases hfault : world.connectFault with
  | some f =>
    -- The same fault leaves dialing at both endpoints.
    rw [hfault, Option.map_some] at hconnect
    obtain ⟨f', hfault', hdial⟩ := Option.map_eq_some_iff.mp hconnect.symm
    have houtcome : outcome = _ := inSpan_run_fault hfault
    have houtcome' : outcome' = _ := inSpan_run_fault hfault'
    rw [houtcome, houtcome', hdial, Endpoint.dialing_of_fault _ hfault,
      Endpoint.dialing_of_fault _ hfault']
    exact ⟨rfl, _, _, rfl, rfl, map_wordless_osNotes _ _ _⟩
  | none =>
    rw [hfault, Option.map_none] at hconnect
    have hfault' := Option.map_eq_none_iff.mp hconnect.symm
    rw [Endpoint.met_of_connected _ hfault, Endpoint.met_of_connected _ hfault'] at h
    subst h
    -- One exchange serves both calls.
    obtain ⟨ended, trace, -, hrun⟩ := exchange_run world.room method params clock
      world.sendFault world.opened.incoming.readLine.1
    obtain ⟨incoming, hexchange⟩ := hrun world.opened rfl rfl rfl
    have houtcome : outcome = _ := inSpan_run hfault hexchange
    have houtcome' : outcome' = _ := inSpan_run hfault hexchange
    rw [houtcome, houtcome', Endpoint.dialing_of_connected _ hfault,
      Endpoint.dialing_of_connected _ hfault]
    refine ⟨rfl, _, _, List.append_assoc _ _ _, List.append_assoc _ _ _, ?_⟩
    simp only [List.map_append, map_wordless_osNotes (exchangeFailed endpoint method)
      (exchangeFailed endpoint' method)]
    rfl

/-- The activities with which a call begins. -/
def opening (endpoint : Endpoint) (method : Text) : List Activity :=
  [.tracer "gonit_api", .spanStart (text "rpc.client " ++ method)
    [("rpc.method", .string method), ("server.address", .string endpoint.label)]]

/-- Calls at two endpoints that meet the same world end the same, and do the same but for the address
in the span, dialing and the texts of log lines. -/
theorem call_met (h : endpoint.met world = endpoint'.met world') (clock : Clock) (name : Text)
    (params : List Param) :
    let outcome := call endpoint world clock name params ()
    let outcome' := call endpoint' world' clock name params ()
    outcome.result = outcome'.result ∧ ∃ body body',
      outcome.trace =
        opening endpoint (Method.wireName name) ++ endpoint.dialing world ++ body ∧
      outcome'.trace =
        opening endpoint' (Method.wireName name) ++ endpoint'.dialing world' ++ body' ∧
      body.map Activity.wordless = body'.map Activity.wordless := by
  intro outcome outcome'
  obtain ⟨hresult, body, body', htrace, htrace', hbody⟩ :=
    inSpan_met h clock (Method.wireName name) params
  have houtcome : outcome = _ := Act.span_run _ _ (inSpan endpoint world clock _ params) ()
  have houtcome' : outcome' = _ := Act.span_run _ _ (inSpan endpoint' world' clock _ params) ()
  have hclass : (inSpan endpoint world clock (Method.wireName name) params ()).failureClass? =
      (inSpan endpoint' world' clock (Method.wireName name) params ()).failureClass? := by
    rw [Outcome.failureClass?, hresult, Outcome.failureClass?]
  let ended := (inSpan endpoint' world' clock (Method.wireName name) params ()).failureClass?
  rw [houtcome, houtcome', hclass, htrace, htrace']
  refine ⟨hresult, body ++ [.spanEnd ended], body' ++ [.spanEnd ended], ?_, ?_, ?_⟩
  · rw [opening, List.append_assoc, List.append_assoc]
    rfl
  · rw [opening, List.append_assoc, List.append_assoc]
    rfl
  · rw [List.map_append, List.map_append, hbody]

/-- For every TCP and every Unix endpoint, and every world, clock, name and parameters, the call over
the socket path is the call over the host and port in the world that it meets, but for the address in
the span, the activities of dialing and the texts of log lines.  It meets the world as it is, unless
the operating system refuses the connection and the socket cannot be closed either: then the one call
ends with the fault of connecting and the other with the fault of closing. -/
theorem call_transports (url url' host path : Text) (port : Nat) (world : World) (clock : Clock)
    (name : Text) (params : List Param) :
    let tcp : Endpoint := ⟨url, .tcp host port⟩
    let unix : Endpoint := ⟨url', .unix path⟩
    let overTcp := fun world => call tcp world clock name params ()
    let overUnix := call unix world clock name params ()
    (overTcp (unix.met world)).result = overUnix.result ∧
      (∃ body body',
        (overTcp (unix.met world)).trace =
          opening tcp (Method.wireName name) ++ [.dialTcp (some host) (some port)] ++ body ∧
        overUnix.trace =
          opening unix (Method.wireName name) ++ ([.openUnix, .dialUnix (some path)] ++
            world.connectFault.elim [] unix.cleanupTrace) ++ body' ∧
        body.map Activity.wordless = body'.map Activity.wordless) ∧
      (unix.met world = world ∨
        ∃ f cleanup, world.connectFault = some f ∧ (Failure.fault f).isOS = true ∧
          world.socketFault = some cleanup ∧ (overTcp world).result = .error (.fault f) ∧
          overUnix.result = .error (.fault cleanup)) := by
  intro tcp unix overTcp overUnix
  have hmet : ∀ w, tcp.met w = w := Endpoint.met_tcp url host port
  obtain ⟨hresult, body, body', htrace, htrace', hbody⟩ :=
    call_met (hmet (unix.met world)) clock name params
  have hdialing : tcp.dialing (unix.met world) = [.dialTcp (some host) (some port)] := by
    cases h : (unix.met world).connectFault with
    | none => exact Endpoint.dialing_of_connected tcp h
    | some f => exact Endpoint.dialing_of_fault tcp h
  rw [hdialing] at htrace
  refine ⟨hresult, ⟨body, body', htrace, htrace', hbody⟩, ?_⟩
  rcases unix.met_cases world with hsame | ⟨f, cleanup, hconnect, hclean, hsocket, -⟩
  · exact .inl hsame
  · refine .inr ⟨f, cleanup, hconnect, hclean, hsocket, ?_, ?_⟩
    · exact call_of_connectFault hconnect tcp clock name params
    · have hunix : overUnix.result = _ := call_of_connectFault hconnect unix clock name params
      rw [hunix, Endpoint.dialFault, hclean, hsocket]
      rfl

/-- A refused connection, and a socket that cannot be closed: the call over TCP ends with the refusal,
and the call over a socket path with the fault of closing. -/
theorem call_transports_cleanup :
    let tcp : Endpoint := ⟨"tcp://h:1", .tcp "h" 1⟩
    let unix : Endpoint := ⟨"/run/gonit.sock", .unix "/run/gonit.sock"⟩
    let refused : Fault := ⟨.connectionRefused, .numbered 111 "Connection refused"⟩
    let cleanup : Fault := ⟨.os, .numbered 5 "Input/output error"⟩
    let world : World := ⟨some refused, none, [], none, some cleanup, 984⟩
    Endpoint.parse "/root" (some "tcp://h:1") = .ok tcp ∧
      Endpoint.parse "/root" (some "/run/gonit.sock") = .ok unix ∧
      (call tcp world [] "status" [] ()).result = .error (.fault refused) ∧
      (call unix world [] "status" [] ()).result = .error (.fault cleanup) ∧
      (Failure.fault refused).message = text "[Errno 111] Connection refused" ∧
      (Failure.fault cleanup).message = text "[Errno 5] Input/output error" := by
  intro tcp unix refused cleanup world
  exact ⟨by decide +kernel, by decide +kernel, rfl, rfl, by decide +kernel, by decide +kernel⟩

end Client

end SupervisorRpc
