import SupervisorRpc.Client
import SupervisorRpc.CommandLine
import SupervisorRpc.Config
import SupervisorRpc.Log

/-! The command line program.  `plan` settles from the arguments and the environment alone whether
there is a call to make; `Job.run` makes it and says what the world and the user see of it. -/

namespace SupervisorRpc

namespace Program

open Options

def logger : Text := "gonit_api.cli"

/-- A call that the program makes, and how it is observed: the endpoint that telemetry goes to, if
any, and the threshold of the log. -/
structure Job where
  endpoint : Endpoint
  method : Text
  params : List Text
  service : Text
  telemetry : Option Text
  threshold : Nat
deriving DecidableEq

/-- What the program sets out to do. -/
inductive Plan where
  /-- It ends without a call, with an exit code and the texts on its two outputs. -/
  | finish (code : Nat) (out err : Text)
  /-- It breaks off. -/
  | breakOff (e : Failure)
  | call (job : Job)

/-- What is seen of a run.  `err` follows the log. -/
structure Run where
  ending : Except Failure Nat
  out : Text
  log : List LogLine
  err : Text
  events : List Event

/-- The text on the error output; every line of the log carries `time`. -/
def Run.errorOutput (time : Text) (r : Run) : Text :=
  r.log.flatMap (LogLine.render time) ++ r.err

/-- The events of a run that are no log lines. -/
def Run.trace (r : Run) : List Event := r.events.filter fun e => e.logLine?.isNone

/-- The plan for an invocation. -/
def planInvocation (config : Config) (layout : Layout) (i : CommandLine.Invocation) : Plan :=
  let refuse (message : Text) : Plan :=
    .finish 2 [] (CommandLine.refusal config.rpcUrl layout (.other message))
  let threshold? := if i.verbose then some Level.debug.weight else Log.threshold? config.logLevel
  match threshold? with
  | none => .breakOff (.unknownLevel config.logLevel)
  | some threshold =>
    match i.command with
    | none => .finish 1 (CommandLine.help config.rpcUrl layout) []
    | some command =>
      match command.call with
      | .error e => refuse e.message
      | .ok (method, params) =>
        match i.rpcUrl.getD (some config.rpcUrl) with
        | none => .breakOff .urlNotText
        | some url =>
          match Endpoint.addressOf url with
          | .error e => refuse e.message
          | .ok address =>
            let config := { config with otlpEndpoint := i.otlpEndpoint.getD config.otlpEndpoint }
            let telemetry := if config.telemetryEnabled then config.otlpEndpoint else none
            .call ⟨⟨url, address⟩, method, params, config.serviceName, telemetry, threshold⟩

/-- The plan for a command line in an environment. -/
def plan (env : Environment) (args : List Text) : Plan :=
  let config := Config.ofEnvironment env
  let layout := Layout.ofColumns (columns env.columns)
  match CommandLine.read config.rpcUrl layout args with
  | .error (.help shown) => .finish 0 shown []
  | .error (.refusal shown) => .finish 2 [] shown
  | .ok invocation => planInvocation config layout invocation

namespace Job

/-- Sets up telemetry, if it is wanted. -/
def setUp (job : Job) : List Event × Instruments :=
  match job.telemetry with
  | none => ([], Instruments.empty)
  | some endpoint =>
    let (events, instruments) :=
      Telemetry.setupMetrics job.service endpoint Telemetry.defaultInterval
    (Telemetry.setupTracer job.service endpoint ++ events, instruments)

/-- The call of a job. -/
def act (job : Job) (world : World) (clock : SystemClock) : Act Unit Json :=
  Client.call job.endpoint world clock job.method (job.params.map fun p => .value (.string p))

/-- The log line before the call. -/
def calling (job : Job) : Activity :=
  .log .debug logger
    (text "Calling " ++ job.method ++ text " with " ++ Text.quotedList job.params)

/-- All events of a job. -/
def events (job : Job) (world : World) (clock : SystemClock) : List Event :=
  let (setUp, instruments) := job.setUp
  .activity (Client.created job.endpoint) :: setUp ++
    .activity job.calling :: (instruments.events (job.act world clock ()).trace).1

/-- What the user reads when a call fails, if the program does not break off. -/
def complaint? (job : Job) : Failure → Option Text
  | .rpc e => some (text "Error: " ++ e.message ++ text "\n")
  | e =>
    if e.isOS then
      some (text "Failed to connect to gonit daemon at " ++ job.endpoint.label ++ text ": " ++
        e.message ++ text "\n")
    else none

/-- Carries out a job.  A result is less deep than the response that it came in, so printing it does not
fail. -/
def run (job : Job) (world : World) (clock : SystemClock) : Run :=
  let events := job.events world clock
  let log := Log.shown job.threshold events
  match (job.act world clock ()).result with
  | .ok value => ⟨.ok 0, Json.indented value ++ text "\n", log, [], events⟩
  | .error e =>
    match job.complaint? e with
    | some complaint => ⟨.ok 1, [], log, complaint, events⟩
    | none => ⟨.error e, [], log, [], events⟩

end Job

/-- Carries out a plan. -/
def Plan.run (world : World) (clock : SystemClock) : Plan → Run
  | finish code out err => ⟨.ok code, out, [], err, []⟩
  | breakOff e => ⟨.error e, [], [], [], []⟩
  | call job => job.run world clock

/-- Runs the program; without a clock, all of it takes no time. -/
def run (env : Environment) (world : World) (args : List Text) (clock : SystemClock := []) : Run :=
  (plan env args).run world clock

end Program

end SupervisorRpc
