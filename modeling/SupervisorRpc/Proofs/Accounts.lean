import SupervisorRpc.Proofs.Client.Metrics
import SupervisorRpc.Proofs.Telemetry
import SupervisorRpc.Session

/-! The accounts of a session.  Every call measures what its ending says, and over a session of calls the
requests and the failed connections together are the successes and the errors. -/

namespace SupervisorRpc

namespace Client

/-- What a call with the clock of the system measures is told by how far it came and how it ended. -/
structure Accounted (world : World) (clock : SystemClock) (method : Text) (params : List Param)
    (outcome : Outcome Unit Json) : Prop where
  measured : measurements outcome.trace = requested world method params ++
    timing world clock method params ++ verdict method outcome.result
  rpc : ∀ e, outcome.result = .error (.rpc e) → ∃ line, received world params = .ok line ∧
    match e.error? with
    | none => ∀ members, Response.decode world.limit line ≠ .ok (.object members)
    | some error => error.isNothing = false ∧ ∃ members,
      Response.decode world.limit line = .ok (.object members) ∧ Response.errorOf members = error
  typeError : outcome.failureClass? = some .type → measurements outcome.trace = []
  failure : ∀ e, outcome.result = .error e → e.isOS = true ∨ (∃ r, e = .rpc r) ∨
    (params.mapM (Param.writable world.room) = .error e ∧ measurements outcome.trace = [])

theorem call_accounted (endpoint : Endpoint) {world : World} (clock : SystemClock) (name : Text)
    {params : List Param} (hcalm : world.Calm) (hshallow : Shallow world params) :
    Accounted world clock (Method.wireName name) params
      (call endpoint world clock name params ()) := by
  have hmeasured := call_measured endpoint clock name hcalm hshallow
  dsimp only at hmeasured
  generalize call endpoint world clock name params () = outcome at hmeasured
  obtain ⟨result, ⟨⟩, trace⟩ := outcome
  dsimp only at hmeasured
  refine ⟨hmeasured.counted_eq, ?_, ?_, ?_⟩
  · rintro e rfl
    exact hmeasured.rpc
  · intro htype
    cases result with
    | ok value => cases htype
    | error e =>
      have hclass : e.errorClass = .type := Option.some.inj htype
      rcases hmeasured.failure with hOS | ⟨r, rfl⟩ | ⟨-, hnone⟩
      · rw [Failure.isOS, hclass] at hOS
        cases hOS
      · cases hclass
      · exact hnone
  · rintro e rfl
    exact hmeasured.failure

end Client

def Event.adds (counter : Text) : Event → Bool
  | .activity a => a.adds counter
  | _ => false

/-- The making of instruments adds to no counter. -/
theorem Instruments.events_adds (i : Instruments) (counter : Text) (trace : List Activity) :
    (i.events trace).1.countP (·.adds counter) = additions counter trace := by
  have hholds : (Event.adds counter) = Event.holds (·.adds counter) := by
    funext e
    cases e <;> rfl
  rw [hholds]
  exact i.events_countP _ trace

namespace Session

/-- The step makes a client, or it is a call with the clock of the system, in a calm world and with a
response that is not too deep. -/
def Step.Regular : Step → Prop
  | .new _ => True
  | .call world clock _ params => (∃ times : SystemClock, clock = times.readings) ∧
    world.Calm ∧ Client.Shallow world params
  | _ => False

/-- The step is a call that cannot connect. -/
def Step.unconnected : Step → Bool
  | .call world _ _ _ => world.connectFault.isSome
  | _ => false

def tally (counter : Text) (reports : List Report) : Nat :=
  (reports.flatMap (·.events)).countP (·.adds counter)

theorem tally_cons (counter : Text) (report : Report) (reports : List Report) :
    tally counter (report :: reports) = tally counter [report] + tally counter reports := by
  simp [tally]

theorem tally_perform {α : Type} (counter : Text) (s : State) (x : Act Unit α) (answer : α → Answer) :
    tally counter [s.perform x answer] = additions counter (x ()).trace := by
  rw [← s.instruments.events_adds, tally, List.flatMap_singleton]
  rfl

theorem tally_new (counter : Text) (s : State) (url : Option Text) :
    tally counter [s.step (.new url)] = 0 := by
  rw [State.step]
  cases Endpoint.parse s.home url <;> rfl

theorem step_balance {s : State} (hclient : s.client.isSome = true) {step : Step}
    (hstep : step.Regular) :
    (s.step step).state.client.isSome = true ∧
      tally Metric.requests [s.step step] + step.unconnected.toNat =
        tally Metric.success [s.step step] + tally Metric.errors [s.step step] := by
  cases step with
  | new url =>
    rw [tally_new, tally_new, tally_new, State.step]
    cases Endpoint.parse s.home url with
    | error e => exact ⟨hclient, rfl⟩
    | ok e => exact ⟨rfl, rfl⟩
  | call world clock name params =>
    obtain ⟨e, he⟩ := Option.isSome_iff_exists.mp hclient
    obtain ⟨⟨times, rfl⟩, hcalm, hshallow⟩ := hstep
    have hbalance := (Client.call_measured e times name hcalm hshallow).balance
    simp only [additions_measurements] at hbalance
    rw [State.step, he]
    refine ⟨hclient, ?_⟩
    rw [tally_perform, tally_perform, tally_perform]
    exact hbalance
  | _ => exact hstep.elim

theorem run_balance {s : State} (hclient : s.client.isSome = true) {steps : List Step}
    (hsteps : ∀ step ∈ steps, step.Regular) :
    tally Metric.requests (s.run steps) + steps.countP Step.unconnected =
      tally Metric.success (s.run steps) + tally Metric.errors (s.run steps) := by
  -- The induction is on the steps; that there is a client is what one step leaves to the next.
  induction steps generalizing s with
  | nil => rfl
  | cons step steps ih =>
    obtain ⟨hstep, hrest⟩ := List.forall_mem_cons.mp hsteps
    obtain ⟨hclient', hbalance⟩ := step_balance hclient hstep
    have hrun := ih hclient' hrest
    have hunconnected : (step :: steps).countP Step.unconnected =
        step.unconnected.toNat + steps.countP Step.unconnected := by
      rw [List.countP_cons]
      cases step.unconnected <;> simp [Nat.add_comm]
    rw [hunconnected, State.run, tally_cons, tally_cons Metric.success, tally_cons Metric.errors]
    omega

/-- Every call in a calm world measures its request, its time and its ending, as far as it comes.  Over
a session of such calls by any clients, the requests and the failed connections together are the
successes and the errors; calls whose parameters cannot be written add nothing. -/
theorem calls_measured :
    (∀ (endpoint : Endpoint) (world : World) (clock : SystemClock) (name : Text)
        (params : List Param), world.Calm → Client.Shallow world params →
      Client.Accounted world clock (Method.wireName name) params
        (Client.call endpoint world clock name params ())) ∧
    ∀ (s : State) (steps : List Step), s.client.isSome = true → (∀ step ∈ steps, step.Regular) →
      tally Metric.requests (s.run steps) + steps.countP Step.unconnected =
        tally Metric.success (s.run steps) + tally Metric.errors (s.run steps) := by
  constructor
  · intro endpoint world clock name params hcalm hshallow
    exact Client.call_accounted endpoint clock name hcalm hshallow
  · intro s steps hclient hsteps
    exact run_balance hclient hsteps

/-- A session with a call that cannot connect, one that gets a result, and one with a parameter that
cannot be written. -/
theorem calls_measured_session :
    let refusing : World := ⟨some ⟨.connectionRefused, .none⟩, none, [], none, none, 984⟩
    let answering : World := ⟨none, none, [.data [0x7B, 0x7D, 0x0D], .data [0x0A]], none, none, 984⟩
    let clock : SystemClock := [1.5, 2.0]
    let s : State := ⟨"/", some ⟨"tcp://h:1", .tcp "h" 1⟩, Instruments.empty⟩
    let steps : List Step := [.call refusing clock.readings "status" [],
      .call answering clock.readings "status" [], .call answering clock.readings "stop" [.foreign]]
    measurements (Client.call ⟨"tcp://h:1", .tcp "h" 1⟩ refusing clock "status" [] ()).trace =
        [Metric.errorCounted .io (Method.wireName "status")] ∧
      tally Metric.requests (s.run steps) + 1 =
        tally Metric.success (s.run steps) + tally Metric.errors (s.run steps) := by
  intro refusing answering clock s steps
  have hrefusing : refusing.Calm :=
    ⟨by simp [refusing, Fault.isOS, ErrorClass.isOS], by simp [refusing], by simp [refusing], rfl,
      rfl⟩
  have hanswering : answering.Calm :=
    ⟨by simp [answering], by simp [answering], by simp [answering], rfl, rfl⟩
  have hshallow : Client.Shallow answering [] := by
    intro line nesting hline hdeep
    obtain rfl : [0x7B, 0x7D] = line := Except.ok.inj hline
    cases hdeep
  have hunread : Client.Shallow refusing [] := by
    intro line nesting hline
    cases hline
  have hunwritten : Client.Shallow answering [.foreign] := by
    intro line nesting hline
    cases hline
  have hregular : ∀ step ∈ steps, step.Regular := by
    simp only [steps, List.mem_cons, List.not_mem_nil, or_false]
    rintro step (rfl | rfl | rfl)
    · exact ⟨⟨clock, rfl⟩, hrefusing, hunread⟩
    · exact ⟨⟨clock, rfl⟩, hanswering, hshallow⟩
    · exact ⟨⟨clock, rfl⟩, hanswering, hunwritten⟩
  have hunconnected : steps.countP Step.unconnected = 1 := rfl
  obtain ⟨hcalls, hsession⟩ := calls_measured
  constructor
  · have hrefused := hcalls ⟨"tcp://h:1", .tcp "h" 1⟩ refusing clock "status" [] hrefusing hunread
    rw [hrefused.measured]
    rfl
  · have hbalance := hsession s steps rfl hregular
    rwa [hunconnected] at hbalance

end Session

end SupervisorRpc
