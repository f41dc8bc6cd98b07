import SupervisorRpc.Proofs.Session.Runs
import SupervisorRpc.Proofs.Telemetry

/-! Isolation of the steps of a session.  The instruments are all that is left of earlier steps besides
the client, and they decide only which of them have to be made.  A step therefore ends, sends, logs and
measures as it does right after the making of its client. -/

namespace SupervisorRpc

namespace Session

/-- Two reports differ in nothing but the making of instruments. -/
structure Alike (r r' : Report) : Prop where
  result : r.result = r'.result
  events : r.events.filter (!·.isMaking) = r'.events.filter (!·.isMaking)

variable {s t : State}

theorem alike_perform {α : Type} (s t : State) (x : Act Unit α) (answer : α → Answer) :
    Alike (s.perform x answer) (t.perform x answer) := by
  refine ⟨rfl, ?_⟩
  show (s.instruments.events _).1.filter _ = (t.instruments.events _).1.filter _
  rw [s.instruments.events_filter, t.instruments.events_filter]

theorem alike_made (s t : State) (answer : Answer) {made made' : List Event × Instruments}
    (h : ∀ e ∈ made.1, e.isMaking = true) (h' : ∀ e ∈ made'.1, e.isMaking = true) :
    Alike (s.done answer made) (t.done answer made') := by
  refine ⟨rfl, ?_⟩
  show made.1.filter _ = made'.1.filter _
  rw [Instruments.filter_making h, Instruments.filter_making h']

theorem alike_eventsOf (s t : State) (answer : Answer) (a : Activity) :
    Alike (s.done answer (s.instruments.eventsOf a)) (t.done answer (t.instruments.eventsOf a)) := by
  refine ⟨rfl, ?_⟩
  show (s.instruments.eventsOf a).1.filter _ = (t.instruments.eventsOf a).1.filter _
  rw [s.instruments.eventsOf_filter, t.instruments.eventsOf_filter]

/-- A step depends on the home directory and the client, and on the instruments only for what has to be
made. -/
theorem alike_step (hhome : s.home = t.home) (hclient : s.client = t.client) (step : Step) :
    Alike (s.step step) (t.step step) := by
  cases step with
  | new url =>
    rw [State.step, State.step, hhome]
    cases Endpoint.parse t.home url <;> exact ⟨rfl, rfl⟩
  | call world clock name params =>
    rw [State.step, State.step, hclient]
    cases t.client with
    | none => exact ⟨rfl, rfl⟩
    | some e => exact alike_perform s t (Client.call e world clock name params) .value
  | dispatch world clock name params =>
    rw [State.step, State.step, hclient]
    cases t.client with
    | none => exact ⟨rfl, rfl⟩
    | some e => exact alike_perform s t (Client.dispatch e world clock name params) .value
  | connect endpoint world => exact alike_perform s t (endpoint.connect world) .connection
  | setupTracer service endpoint => exact ⟨rfl, rfl⟩
  | setupMetrics service endpoint interval => exact ⟨rfl, rfl⟩
  | getCounter name description unit =>
    exact alike_made s t .nothing (s.instruments.needCounter_isMaking name description unit)
      (t.instruments.needCounter_isMaking name description unit)
  | getHistogram name description unit =>
    exact alike_made s t .nothing (s.instruments.needHistogram_isMaking name description unit)
      (t.instruments.needHistogram_isMaking name description unit)
  | incrementCounter name amount attributes =>
    exact alike_eventsOf s t .nothing (.add name amount attributes)
  | recordLatency name value attributes =>
    exact alike_eventsOf s t .nothing (.record name value attributes)
  | span name attributes fault =>
    exact alike_perform s t (Act.span name attributes (Act.raise fault)) fun _ => .nothing

/-- In any session, a step that meets the client of a URL gives what it gives in the session that only
makes this client and takes this step. -/
theorem run_isolated (home : Text) {before : List Step} (step : Step) (after : List Step)
    {url : Option Text} (hclient : clientUrl? home before = some url) :
    ∃ report made alone,
      ((start home).run (before ++ step :: after))[before.length]? = some report ∧
      (start home).run [.new url, step] = [made, alone] ∧ Alike report alone := by
  have hhome := after_home (start home) before
  obtain ⟨e, he, hbefore⟩ := after_client (s := start home) hclient
  have hurl : (Step.new url).clientUrl? home = some url := by
    rw [Step.clientUrl?, if_pos]
    show (Endpoint.parse home url).isOk = true
    have he' : Endpoint.parse home url = .ok e := he
    rw [he']
    rfl
  obtain ⟨e', he', hmade⟩ := step_client_of_some (s := start home) hurl
  obtain rfl : e = e' := Except.ok.inj (he.symm.trans he')
  refine ⟨_, _, _, run_getElem? (start home) before step after, rfl, ?_⟩
  apply alike_step
  · rw [hhome, step_home]
  · rw [hbefore, hmade]

/-- A dispatch after two clients, a URL that is no endpoint, a call that fails and a new provider, and with
a step behind it. -/
theorem run_isolated_dispatch :
    let refusing : World := ⟨some ⟨.connectionRefused, .none⟩, none, [], none, none, 984⟩
    let answering : World := ⟨none, none, [.data [0x7B, 0x7D, 0x0A]], none, none, 984⟩
    let before : List Step := [.new (some "/a"), .new (some "tcp://h:1"), .new (some "tcp://h"),
      .call refusing [] "status" [], .setupMetrics "s" "e" (.int 5000)]
    let step : Step := .dispatch answering [] "about" []
    clientUrl? "/" before = some (some (text "tcp://h:1")) ∧
    ∃ report made alone,
      ((start "/").run (before ++ [step, .setupTracer "s" "e"]))[5]? = some report ∧
      (start "/").run [.new (some (text "tcp://h:1")), step] = [made, alone] ∧ Alike report alone := by
  intro refusing answering before step
  have hclient : clientUrl? "/" before = some (some (text "tcp://h:1")) := by decide +kernel
  exact ⟨hclient, run_isolated "/" step [.setupTracer "s" "e"] hclient⟩

end Session

end SupervisorRpc
