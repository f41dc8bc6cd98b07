import SupervisorRpc.Endpoint

/-! The configuration of the command line client, with defaults and from environment variables. -/

namespace SupervisorRpc

/-- The environment variables that the client looks at. -/
structure Environment where
  home : Text
  rpcUrl : Option Text
  logLevel : Option Text
  otlpEndpoint : Option Text
  serviceName : Option Text
  columns : Option Text
deriving DecidableEq

/-- The settings of the client. -/
structure Config where
  rpcUrl : Text
  logLevel : Text
  otlpEndpoint : Option Text
  serviceName : Text
deriving DecidableEq

namespace Config

/-- The settings without any variables but the home directory. -/
def default (home : Text) : Config where
  rpcUrl := defaultSocketPath home
  logLevel := "WARNING"
  otlpEndpoint := none
  serviceName := "gonit-api"

/-- The settings that environment variables give.  Levels are named in capitals, and an empty
endpoint of telemetry is none. -/
def ofEnvironment (e : Environment) : Config :=
  let base := default e.home
  { rpcUrl := e.rpcUrl.getD base.rpcUrl
    logLevel := Text.upper (e.logLevel.getD base.logLevel)
    otlpEndpoint := e.otlpEndpoint.filter (· ≠ [])
    serviceName := e.serviceName.getD base.serviceName }

/-- Telemetry is exported where there is an endpoint for it. -/
def telemetryEnabled (c : Config) : Bool := (c.otlpEndpoint.map (!·.isEmpty)).getD false

end Config

end SupervisorRpc
