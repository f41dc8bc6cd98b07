import SupervisorRpc.Program
import SupervisorRpc.Proofs.CommandLine
import SupervisorRpc.Proofs.Telemetry

/-! What the program does on a command line with an action.  It sets up telemetry if there is an
endpoint for it, and then makes the call that the client makes for the action, to the endpoint of the
last URL or of the environment. -/

namespace SupervisorRpc

/-- The event is of the network, a span, a measurement or the set-up of telemetry.  Log lines, the
asking for tracers and meters and the making of instruments are none of these. -/
def Event.isEffect : Event → Bool
  | .activity (.log _ _ _) | .activity (.tracer _) => false
  | .meter _ | .createCounter _ _ _ | .createHistogram _ _ _ => false
  | _ => true

theorem Event.isEffect_of_isMaking (e : Event) (h : e.isMaking = true) : e.isEffect = false := by
  cases e with
  | meter | createCounter | createHistogram => rfl
  | _ => cases h

namespace Telemetry

/-- The making of the providers of traces and metrics for a service. -/
def providers (service endpoint : Text) : List Event :=
  [.tracerProvider service, .spanExporter endpoint, .addSpanProcessor, .setTracerProvider,
    .metricExporter endpoint, .metricReader defaultInterval, .meterProvider service,
    .setMeterProvider]

end Telemetry

/-- An endpoint that was parsed has the URL as it was given. -/
theorem Endpoint.addressOf_of_parse {home url : Text} {e : Endpoint}
    (h : Endpoint.parse home (some url) = .ok e) :
    ∃ address, Endpoint.addressOf url = .ok address ∧ ⟨url, address⟩ = e := by
  rw [Endpoint.parse, Option.getD_some] at h
  cases haddress : Endpoint.addressOf url with
  | error _ =>
    rw [haddress] at h
    cases h
  | ok address =>
    rw [haddress] at h
    exact ⟨address, rfl, Except.ok.inj h⟩

namespace Program

open Options

variable (job : Job) (world : World) (clock : SystemClock)

/-- The events of a job before its call. -/
def Job.preparation : List Event :=
  .activity (Client.created job.endpoint) :: job.setUp.1 ++ [.activity job.calling]

theorem Job.run_events : (job.run world clock).events = job.events world clock := by
  rw [run]
  repeat' split
  all_goals rfl

theorem Job.events_eq : job.events world clock =
    job.preparation ++ (job.setUp.2.events (job.act world clock ()).trace).1 := by
  rw [preparation, List.append_assoc]
  rfl

theorem Job.preparation_isEffect :
    job.preparation.filter Event.isEffect =
      job.telemetry.elim [] (Telemetry.providers job.service) := by
  rw [preparation, setUp]
  cases job.telemetry <;> rfl

/-- Where the level of the log is not given, or is the name of a threshold, there is a threshold. -/
theorem threshold?_isSome {env : Environment}
    (hlevel : ∀ level, env.logLevel = some level →
      (Log.threshold? (Text.upper level)).isSome = true) (verbose : Bool) :
    (if verbose then some Level.debug.weight
      else Log.threshold? (Config.ofEnvironment env).logLevel).isSome = true := by
  split
  · rfl
  · have hgiven : (Config.ofEnvironment env).logLevel =
        Text.upper (env.logLevel.getD (text "WARNING")) := rfl
    rw [hgiven]
    cases h : env.logLevel with
    | none => decide +kernel
    | some level => exact hlevel level h

/-- An invocation that passes the checks of the level, the command and the URL plans its call. -/
theorem planInvocation_call {config : Config} (layout : Layout) {i : CommandLine.Invocation}
    {threshold : Nat}
    (hthreshold : (if i.verbose then some Level.debug.weight
      else Log.threshold? config.logLevel) = some threshold)
    {command : CommandLine.Command} (hcommand : i.command = some command)
    {method : Text} {params : List Text} (hcall : command.call = .ok (method, params))
    {url : Text} (hurl : i.rpcUrl.getD (some config.rpcUrl) = some url)
    {address : Address} (haddress : Endpoint.addressOf url = .ok address) :
    planInvocation config layout i = .call ⟨⟨url, address⟩, method, params, config.serviceName,
      (let config := { config with otlpEndpoint := i.otlpEndpoint.getD config.otlpEndpoint }
        if config.telemetryEnabled then config.otlpEndpoint else none), threshold⟩ := by
  rw [planInvocation, hthreshold]
  dsimp only
  rw [hcommand]
  dsimp only
  rw [hcall]
  dsimp only
  rw [hurl]
  dsimp only
  rw [haddress]

end Program

namespace CommandLine

namespace ActionLine

variable (l : ActionLine) (env : Environment)

/-- The URL that counts: the last one given, or that of the environment, or the socket in the home
directory. -/
def rpcUrl : Text := l.url?.getD (env.rpcUrl.getD (defaultSocketPath env.home))

/-- The endpoint of telemetry that counts: the last one given, or that of the environment, or none,
which is empty. -/
def otlpEndpoint : Text := l.endpoint?.getD (env.otlpEndpoint.getD [])

variable {env}

theorem telemetry_eq :
    let config : Config :=
      { Config.ofEnvironment env with
        otlpEndpoint := (l.endpoint?.map some).getD (Config.ofEnvironment env).otlpEndpoint }
    (if config.telemetryEnabled then config.otlpEndpoint else none) =
      if l.otlpEndpoint env = [] then none else some (l.otlpEndpoint env) := by
  intro config
  have hgiven : config.otlpEndpoint =
      (l.endpoint?.map some).getD (env.otlpEndpoint.filter (· ≠ [])) := rfl
  rw [Config.telemetryEnabled, hgiven, otlpEndpoint]
  cases l.endpoint? with
  | some endpoint => cases endpoint <;> rfl
  | none =>
    cases env.otlpEndpoint with
    | none => rfl
    | some endpoint => cases endpoint <;> rfl

end ActionLine

end CommandLine

namespace Program

open CommandLine

variable (l : ActionLine) {env : Environment}

/-- The plan for a command line with an action is the call that the action stands for. -/
theorem plan_action
    (hlevel : ∀ level, env.logLevel = some level →
      (Log.threshold? (Text.upper level)).isSome = true) {e : Endpoint}
    (he : Endpoint.parse env.home (some (l.rpcUrl env)) = .ok e) :
    ∃ threshold, plan env l.args = .call ⟨e, l.method, l.params, env.serviceName.getD "gonit-api",
      if l.otlpEndpoint env = [] then none else some (l.otlpEndpoint env), threshold⟩ := by
  obtain ⟨threshold, hthreshold⟩ := Option.isSome_iff_exists.mp (threshold?_isSome hlevel l.verbose)
  obtain ⟨address, haddress, rfl⟩ := Endpoint.addressOf_of_parse he
  have hurl : (l.url?.map some).getD (some (Config.ofEnvironment env).rpcUrl) =
      some (l.rpcUrl env) := by
    rw [ActionLine.rpcUrl]
    cases l.url? <;> rfl
  refine ⟨threshold, ?_⟩
  rw [plan, l.read_eq]
  dsimp only
  rw [planInvocation_call _ hthreshold rfl l.call_eq hurl haddress, l.telemetry_eq]
  rfl

/-- On a command line with an action the program makes the call that a client of the URL that counts
makes for it, and no other.  The providers of telemetry are set up before it where the endpoint that
counts is not empty. -/
theorem run_action (world : World) (clock : SystemClock)
    (hlevel : ∀ level, env.logLevel = some level →
      (Log.threshold? (Text.upper level)).isSome = true) {e : Endpoint}
    (he : Endpoint.parse env.home (some (l.rpcUrl env)) = .ok e) :
    let call := Client.call e world clock l.method (l.params.map fun p => .value (.string p)) ()
    let service := env.serviceName.getD "gonit-api"
    (run env world l.args clock).events.filter Event.isEffect =
      (if l.otlpEndpoint env = [] then []
        else Telemetry.providers service (l.otlpEndpoint env)) ++
          (call.trace.map Event.activity).filter Event.isEffect := by
  intro call service
  obtain ⟨threshold, hplan⟩ := plan_action l hlevel he
  rw [run, hplan, Plan.run, Job.run_events, Job.events_eq, List.filter_append,
    Job.preparation_isEffect, Instruments.events_filter_of _ Event.isEffect_of_isMaking]
  dsimp only
  congr 1
  split <;> rfl

/-- A group that is named between its flags.  Of the two URLs the last one counts, and the endpoint of
telemetry on the command line counts before that of the environment. -/
theorem run_action_group :
    let env : Environment := ⟨"/h", none, some "info", some "a:1", some "cli", none⟩
    let world : World := ⟨none, none, [], none, none, 984⟩
    let clock : SystemClock := [10.0, 10.5]
    let call := Client.call ⟨"tcp://h:2", .tcp "h" 2⟩ world clock "stop_group"
      [.value (.string "all ")] ()
    (run env world ["-v", "--rpc-url", "tcp://h:1", "--otlp-endpoint=o:1", "--rpc-url=tcp://h:2",
        "stop", "--group", "all ", "-g"] clock).events.filter Event.isEffect =
      Telemetry.providers "cli" "o:1" ++
        (call.trace.map Event.activity).filter Event.isEffect := by
  intro env world clock call
  let l : ActionLine := {
    globals := [.verbose false, .rpcUrl false "tcp://h:1", .otlpEndpoint true "o:1",
      .rpcUrl true "tcp://h:2"]
    action := "stop"
    before := [true]
    name := "all "
    after := [false]
    regular := by decide
    known := by decide
    named := by decide
    plain := by decide }
  have hlevel : ∀ level, env.logLevel = some level →
      (Log.threshold? (Text.upper level)).isSome = true := by
    rintro level ⟨⟩
    decide +kernel
  have hparse : Endpoint.parse env.home (some (l.rpcUrl env)) =
      .ok ⟨"tcp://h:2", .tcp "h" 2⟩ := rfl
  exact run_action l world clock hlevel hparse

end Program

end SupervisorRpc
