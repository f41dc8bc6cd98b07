import SupervisorRpc.Connection.Basic

/-! Scripts of steps on one connection: its own operations, blocks that close it at their end, and
what the peer and the world do meanwhile. -/

namespace SupervisorRpc

namespace Connection

/-- The places of a connection where the world may hold a fault. -/
inductive FaultPlace where
  | send
  | readerClose
  | socketClose
deriving DecidableEq

/-- A step on a connection. -/
inductive ScriptStep where
  | writeLine (line : Text)
  | readLine
  | close
  /-- The peer sends more. -/
  | peerSend (arrival : Arrival)
  /-- The world puts a fault in place, or takes it away. -/
  | setFault (place : FaultPlace) (fault : Option Fault)
  /-- Steps with the connection closed after them in any case. -/
  | block (steps : List ScriptStep)

/-- What a step gives. -/
inductive Reply where
  | done
  | line (bytes : List UInt8)
  | inner (replies : List Reply)

/-- The connection with a fault put in place or taken away. -/
def withFault (c : Connection) (fault : Option Fault) : FaultPlace → Connection
  | .send => { c with sendFault := fault }
  | .readerClose => { c with readerFault := fault }
  | .socketClose => { c with socketFault := fault }

mutual

/-- Runs a step. -/
def runStep : ScriptStep → Act Connection Reply
  | .writeLine line => do writeLine line; return .done
  | .readLine => do return .line (← readLine)
  | .close => do close; return .done
  | .peerSend arrival => do
    let c ← Act.getState
    Act.setState { c with incoming := c.incoming.push arrival }
    return .done
  | .setFault place fault => do
    let c ← Act.getState
    Act.setState (c.withFault fault place)
    return .done
  | .block steps => do return .inner (← closing (runSteps steps))

/-- Runs steps up to the first that fails. -/
def runSteps : List ScriptStep → Act Connection (List Reply)
  | [] => return []
  | step :: rest => do
    let reply ← runStep step
    let replies ← runSteps rest
    return reply :: replies

end

/-- Runs steps one by one, each on the connection that the one before it leaves, whether that failed
or not. -/
def runScript (c : Connection) : List ScriptStep → List (Outcome Connection Reply)
  | [] => []
  | step :: rest =>
    let outcome := runStep step c
    outcome :: runScript outcome.state rest

end Connection

end SupervisorRpc
