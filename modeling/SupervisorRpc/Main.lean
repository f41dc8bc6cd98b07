import Std.Time.Format
import Std.Time.Zoned
import SupervisorRpc.Program

/-! The program as a process: arguments and environment variables come from the process, the daemon's
side of the connection is read from standard input, and the lines of the log carry the local time. -/

namespace SupervisorRpc

/-- The environment variables of the process. -/
def processEnvironment : IO Environment := do
  let lookup (name : String) : IO (Option Text) := return (← IO.getEnv name).map Text.ofString
  return {
    home := (← lookup "HOME").getD []
    rpcUrl := ← lookup "GONIT_RPC_URL"
    logLevel := ← lookup "GONIT_LOG_LEVEL"
    otlpEndpoint := ← lookup "OTEL_EXPORTER_OTLP_ENDPOINT"
    serviceName := ← lookup "OTEL_SERVICE_NAME"
    columns := ← lookup "COLUMNS" }

/-- All bytes of a stream, after `bytes`. -/
partial def readAll (stream : IO.FS.Stream) (bytes : ByteArray) : IO ByteArray := do
  let more ← stream.read 65536
  if more.isEmpty then return bytes else readAll stream (bytes ++ more)

/-- The world of a process whose daemon answers with `bytes`. -/
def answering (bytes : ByteArray) : World where
  connectFault := none
  sendFault := none
  incoming := [.data bytes.toList]
  readerFault := none
  socketFault := none

/-- The local time as the log shows it. -/
def localTime : IO Text := do
  let now ← Std.Time.PlainDateTime.now
  return now.format "uuuu-MM-dd HH:mm:ss,SSS"

/-- Carries out the command line.  Breaking off ends with code 1 and the message of the failure. -/
def runProcess (args : List Text) : IO UInt32 := do
  let plan := Program.plan (← processEnvironment) args
  let answer ←
    match plan with
    | .call _ => readAll (← IO.getStdin) ByteArray.empty
    | _ => pure ByteArray.empty
  let run := plan.run (answering answer) []
  IO.print run.out.toString
  IO.eprint (run.errorOutput (← localTime)).toString
  match run.ending with
  | .ok code => return code.toUInt32
  | .error e =>
    IO.eprintln e.message.toString
    return 1

end SupervisorRpc

def main (args : List String) : IO UInt32 :=
  SupervisorRpc.runProcess (args.map SupervisorRpc.Text.ofString)
