import SupervisorRpc.Proofs.Instruments
import SupervisorRpc.Proofs.Session.Runs

/-! The instruments of a session.  Whatever its steps are, the trace of a session serves their requests:
it measures only with instruments of the present provider, and each provider makes an instrument once,
as the first request for it says. -/

namespace SupervisorRpc

namespace Session

open Instruments

/-- What a step asks of the metrics. -/
def State.requests (s : State) : Step → List Request
  | .new _ => []
  | .call world clock name params =>
    match s.client with
    | none => []
    | some e => requestsOf (Client.call e world clock name params ()).trace
  | .dispatch world clock name params =>
    match s.client with
    | none => []
    | some e => requestsOf (Client.dispatch e world clock name params ()).trace
  | .connect endpoint world => requestsOf (endpoint.connect world ()).trace
  | .setupTracer _ _ => []
  | .setupMetrics _ _ _ => [.provider]
  | .getCounter name description unit => [.instrument ⟨.counter, name, description, unit⟩]
  | .getHistogram name description unit => [.instrument ⟨.histogram, name, description, unit⟩]
  | .incrementCounter name amount attributes => requestsOf [.add name amount attributes]
  | .recordLatency name value attributes => requestsOf [.record name value attributes]
  | .span name attributes fault =>
    requestsOf ((Act.span name attributes (Act.raise fault) : Act Unit Unit) ()).trace

/-- What steps ask of the metrics, in order. -/
def State.allRequests (s : State) : List Step → List Request
  | [] => []
  | step :: rest => s.requests step ++ (s.step step).state.allRequests rest

theorem served_perform {α : Type} (s : State) (x : Act Unit α) (answer : α → Answer) :
    Served s.instruments (requestsOf (x ()).trace) (s.perform x answer).events
      (s.perform x answer).state.instruments :=
  served_events s.instruments (x ()).trace

theorem served_setupTracer (i : Instruments) (service endpoint : Text) :
    Served i [] (Telemetry.setupTracer service endpoint) i := by
  apply Served.quiet
  simp [Telemetry.setupTracer, Telemetry.configured, Event.isProvider, Event.made?, Event.demand?,
    Activity.demand?]

/-- A new provider starts without instruments; setting it up measures nothing. -/
theorem served_setupMetrics (i : Instruments) (service endpoint : Text) (interval : Number) :
    Served i [.provider] (Telemetry.setupMetrics service endpoint interval).1 Instruments.empty := by
  have hbefore : Served i []
      [.metricExporter endpoint, .metricReader interval, .meterProvider service] i := by
    apply Served.quiet
    simp [Event.isProvider, Event.made?, Event.demand?]
  have hafter : Served Instruments.empty []
      [Telemetry.configured "metrics" "gonit_api.telemetry.metrics" service endpoint,
        .meter service] Instruments.empty := by
    apply Served.quiet
    simp [Telemetry.configured, Event.isProvider, Event.made?, Event.demand?, Activity.demand?]
  exact hbefore.trans (.provider rfl hafter)

theorem served_step (s : State) (step : Step) :
    Served s.instruments (s.requests step) (s.step step).events
      (s.step step).state.instruments := by
  cases step with
  | new url =>
    rw [State.step]
    cases Endpoint.parse s.home url with
    | error e => exact .nil s.instruments
    | ok e =>
      apply Served.quiet
      simp [Client.created, Event.isProvider, Event.made?, Event.demand?, Activity.demand?]
  | call world clock name params =>
    rw [State.step, State.requests]
    cases s.client with
    | none => exact .nil s.instruments
    | some e => exact served_perform s (Client.call e world clock name params) .value
  | dispatch world clock name params =>
    rw [State.step, State.requests]
    cases s.client with
    | none => exact .nil s.instruments
    | some e => exact served_perform s (Client.dispatch e world clock name params) .value
  | connect endpoint world => exact served_perform s (endpoint.connect world) .connection
  | setupTracer service endpoint => exact served_setupTracer s.instruments service endpoint
  | setupMetrics service endpoint interval =>
    exact served_setupMetrics s.instruments service endpoint interval
  | getCounter name description unit =>
    exact (served_need s.instruments ⟨.counter, name, description, unit⟩).1
  | getHistogram name description unit =>
    exact (served_need s.instruments ⟨.histogram, name, description, unit⟩).1
  | incrementCounter name amount attributes =>
    exact served_eventsOf s.instruments (.add name amount attributes)
  | recordLatency name value attributes =>
    exact served_eventsOf s.instruments (.record name value attributes)
  | span name attributes fault =>
    exact served_perform s (Act.span name attributes (Act.raise fault)) fun _ => .nothing

theorem served_run (s : State) (steps : List Step) :
    Served s.instruments (s.allRequests steps) ((s.run steps).flatMap (·.events))
      (s.after steps).instruments := by
  induction steps generalizing s with
  | nil => exact .nil s.instruments
  | cons step rest ih =>
    rw [State.allRequests, State.run, List.flatMap_cons, State.after_cons]
    exact (served_step s step).trans (ih (s.step step).state)

/-- In the trace of any session, every measurement has the making of its instrument before it, with no
new provider between the two; where there is no new provider, no instrument is made twice; and each
provider makes the instruments that are asked of it as they are asked for first. -/
theorem instruments_by_provider (home : Text) (steps : List Step) :
    let trace := ((start home).run steps).flatMap (·.events)
    (∀ before e after d, trace = before ++ e :: after → e.demand? = some d →
      ∃ earlier made between, before = earlier ++ made :: between ∧ made.makes d.key = true ∧
        ∀ x ∈ between, x.isProvider = false) ∧
    (∀ before part after key, trace = before ++ (part ++ after) →
      (∀ x ∈ part, x.isProvider = false) → part.countP (·.makes key) ≤ 1) ∧
    stretches Event.isProvider Event.made? trace =
      (stretches Request.isProvider Request.demand? ((start home).allRequests steps)).map
        firsts := by
  intro trace
  have hserved : Served Instruments.empty ((start home).allRequests steps) trace _ :=
    served_run (start home) steps
  refine ⟨?_, ?_, ?_⟩
  · intro before e after d htrace he
    rw [htrace] at hserved
    rcases hserved.made_before he with ⟨hhas, -⟩ | hmade
    · exact absurd hhas (not_has_empty d.key)
    · exact hmade
  · intro before part after key htrace hpart
    rw [htrace] at hserved
    obtain ⟨j, requests', hrest⟩ := hserved.split
    have hcount := hrest.countP_makes hpart key
    split at hcount <;> omega
  · rw [hserved.stretches_made, supply_empty]

/-- A counter and a histogram of one name, a later request for the counter, and a new provider. -/
theorem instruments_by_provider_renewed :
    let made : List Event := [.meter meterName, .createCounter "n" "first" "1", .meter meterName,
      .createHistogram "n" "other" "ms"]
    let steps : List Step := [.getCounter "n" "first" "1", .getHistogram "n" "other" "ms",
      .getCounter "n" "second" "k", .incrementCounter "n" (.int 1) [],
      .setupMetrics "s" "e" (.int 5000), .incrementCounter "n" (.int 1) []]
    (∃ earlier x between, made = earlier ++ x :: between ∧
      x.makes (.counter, text "n") = true ∧ ∀ y ∈ between, y.isProvider = false) ∧
    made.countP (·.makes (.counter, text "n")) ≤ 1 ∧
    stretches Event.isProvider Event.made? (((start "/").run steps).flatMap (·.events)) =
      [[⟨.counter, "n", "first", "1"⟩, ⟨.histogram, "n", "other", "ms"⟩],
        [⟨.counter, "n", "Counter for n", "1"⟩]] := by
  intro made steps
  obtain ⟨hmeasured, honce, hmade⟩ := instruments_by_provider "/" steps
  have htrace : ∃ after, ((start "/").run steps).flatMap (·.events) =
      made ++ .activity (.add "n" (.int 1) []) :: after := ⟨_, rfl⟩
  obtain ⟨after, htrace⟩ := htrace
  refine ⟨hmeasured made _ after _ htrace rfl, ?_, ?_⟩
  · exact honce [] made _ _ htrace (by simp [made, Event.isProvider])
  · rw [hmade]
    decide +kernel

end Session

end SupervisorRpc
