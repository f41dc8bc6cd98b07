import SupervisorRpc.Activity
import SupervisorRpc.Connection.Lines

/-! A connection to the daemon carries lines: text goes out with a newline after it, and bytes come
in up to a newline.  It is closed once; closing closes the reader and then the socket, whatever
faults the two raise. -/

namespace SupervisorRpc

/-- A connection, with the faults that the world holds for it. -/
structure Connection where
  incoming : Incoming
  sendFault : Option Fault
  readerFault : Option Fault
  socketFault : Option Fault
  closed : Bool
deriving DecidableEq

namespace Connection

def logger : Text := "gonit_api.transport.socket_connection"

/-- Sends a line.  Its encoding comes before any look at the socket. -/
def writeLine (line : Text) : Act Connection Unit := do
  let c ← Act.getState
  match Utf8.surrogateRun? line with
  | some run => Act.fail (.surrogates run)
  | none =>
    if c.closed then Act.fail .closedSocket
    else
      Act.raise c.sendFault
      Act.perform (.send (line ++ [point '\n']))

/-- Receives a line, without its newline and the carriage returns before that. -/
def readLine : Act Connection (List UInt8) := do
  let c ← Act.getState
  if c.closed then Act.fail .closedReader
  else
    let (ending, incoming) := c.incoming.readLine
    Act.setState { c with incoming }
    match ending with
    | .line bytes => return stripReturns bytes
    | .truncated bytes => Act.fail (.truncated bytes.length)
    | .fault f => Act.fail (.fault f)

/-- Closes the reader and then, in any case, the socket.  A fault of the socket takes the place of a
fault of the reader.  A connection that is closed already stays as it is. -/
def close : Act Connection Unit := do
  let c ← Act.getState
  if c.closed then return
  else
    Act.setState { c with closed := true }
    Act.ensuring
      (do Act.perform .closeReader; Act.raise c.readerFault)
      (do Act.perform .closeSocket; Act.raise c.socketFault)
    Act.log .debug logger "Socket connection closed"

/-- An act on a connection that is closed after it in any case. -/
def closing {α : Type} (x : Act Connection α) : Act Connection α := Act.ensuring x close

end Connection

end SupervisorRpc
