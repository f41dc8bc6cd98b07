import SupervisorRpc.Endpoint
import SupervisorRpc.Json.Decode
import SupervisorRpc.Json.Encode
import SupervisorRpc.Text.Utf8

/-! Everything that can go wrong, as causes.  A `Fault` is raised by the world: the network or the
operating system.  A `Failure` is what ends an operation.  Each has a class, which tells failures of
the operating system from others, and a message. -/

namespace SupervisorRpc

/-- The classes of failures. -/
inductive ErrorClass where
  | os
  | connection
  | connectionRefused
  | connectionReset
  | connectionAborted
  | brokenPipe
  | fileNotFound
  | fileExists
  | isDirectory
  | notDirectory
  | permission
  | timeout
  | interrupted
  | wouldBlock
  | childProcess
  | noSuchProcess
  | nameResolution
  | value
  | overflow
  | type
  | missingAttribute
  | recursion
  | encoding
  | rpc
deriving DecidableEq

/-- The failures that the operating system reports. -/
def ErrorClass.isOS : ErrorClass → Bool
  | value | overflow | type | missingAttribute | recursion | encoding | rpc => false
  | _ => true

/-- The class of an operating system error by its number; a number without a class of its own is
`os`. -/
def ErrorClass.ofErrno (n : Int) : ErrorClass :=
  if n = 1 ∨ n = 13 then permission
  else if n = 2 then fileNotFound
  else if n = 3 then noSuchProcess
  else if n = 4 then interrupted
  else if n = 10 then childProcess
  else if n = 11 ∨ n = 114 ∨ n = 115 then wouldBlock
  else if n = 17 then fileExists
  else if n = 20 then notDirectory
  else if n = 21 then isDirectory
  else if n = 32 ∨ n = 108 then brokenPipe
  else if n = 103 then connectionAborted
  else if n = 104 then connectionReset
  else if n = 110 then timeout
  else if n = 111 then connectionRefused
  else os

/-- What a fault says about itself. -/
inductive Detail where
  | none
  | message (t : Text)
  | numbered (errno : Int) (t : Text)
deriving DecidableEq

/-- A fault of the world, raised as a class with a detail. -/
structure Fault where
  raised : ErrorClass
  detail : Detail
deriving DecidableEq

namespace Fault

/-- The class of a fault.  A plain operating system error takes the class of its number. -/
def errorClass (f : Fault) : ErrorClass :=
  match f.raised, f.detail with
  | .os, .numbered n _ => .ofErrno n
  | c, _ => c

def isOS (f : Fault) : Bool := f.raised.isOS

/-- The fault interrupts a read, which is then taken up again (`EINTR`). -/
def isInterrupt (f : Fault) : Bool :=
  match f.detail with
  | .numbered n _ => f.isOS && n = 4
  | _ => false

def message (f : Fault) : Text :=
  match f.detail with
  | .none => []
  | .message t => t
  | .numbered n t =>
    if f.isOS then text "[Errno " ++ Text.ofInt n ++ text "] " ++ t
    else text "(" ++ Text.ofInt n ++ text ", " ++ t.quoted ++ text ")"

end Fault

/-- Why a response line cannot be read. -/
inductive Unreadable where
  | bytes (m : Utf8.Malformed)
  | json (flaw : Json.Flaw)
deriving DecidableEq

/-- The message about the response line `line`. -/
def Unreadable.message (line : Text) : Unreadable → Text
  | bytes m => m.message
  | json flaw => flaw.message line

/-- Why a response is no result: the daemon reported an error, or the line is no response.  `line` is
the response as text. -/
inductive RpcError where
  | unreadable (line : Text) (cause : Unreadable)
  | notObject (line : Text)
  | reported (line : Text) (error : Json)

namespace RpcError

/-- A reported error in words: a string as it is, anything else as JSON.  What was read can be written. -/
def describe : Json → Text
  | .string t => t
  | error => Json.encode Json.spaced error

def message : RpcError → Text
  | unreadable line cause =>
    text "parsing response \x60" ++ line ++ text "': " ++ cause.message line
  | notObject line => text "unexpected response \x60" ++ line ++ text "': not a JSON object"
  | reported _ error => describe error

/-- The error that the daemon reported, if it did. -/
def error? : RpcError → Option Json
  | reported _ error => some error
  | _ => none

/-- The response as text. -/
def response : RpcError → Text
  | unreadable line _ => line
  | notObject line => line
  | reported line _ => line

end RpcError

/-- The method of a client that was called with the wrong number of parameters: how many it takes
and how many it got. -/
structure ArityMismatch where
  method : Text
  expected : Nat
  given : Nat
deriving DecidableEq

/-- The client counts as a parameter of its methods. -/
def ArityMismatch.message (m : ArityMismatch) : Text :=
  let call := text "RpcClient." ++ m.method ++ text "()"
  if m.given < m.expected then call ++ text " missing 1 required positional argument: 'name'"
  else
    call ++ text " takes " ++ Text.ofNat (m.expected + 1) ++
      text (if m.expected = 0 then " positional argument but " else " positional arguments but ") ++
      Text.ofNat (m.given + 1) ++ text " were given"

/-- What ends an operation without a result. -/
inductive Failure where
  | fault (f : Fault)
  /-- Writing to a closed socket. -/
  | closedSocket
  /-- Reading from a closed connection. -/
  | closedReader
  /-- The peer ended the line after `received` bytes without a newline. -/
  | truncated (received : Nat)
  /-- A text with surrogates has no bytes. -/
  | surrogates (run : Utf8.SurrogateRun)
  /-- A parameter that JSON cannot hold. -/
  | unserializable
  /-- A parameter with too much in it to be written. -/
  | unwritable (excess : Json.Excess)
  /-- A time that is an integer beyond the largest double-precision number. -/
  | clockRange
  | rpc (e : RpcError)
  /-- A response with too much nesting to be read. -/
  | tooDeep (nesting : Json.Nesting)
  | endpoint (e : EndpointError)
  | unknownTransport (scheme : Text)
  /-- An endpoint without a path to name it by. -/
  | unnamedEndpoint
  /-- A name that no method may have. -/
  | noSuchMethod (name : Text)
  | arity (m : ArityMismatch)
  /-- A method name that is no text; `type` says what it is. -/
  | nameNotText (type : Text)
  /-- The client's endpoint was called as if it were a method. -/
  | endpointCalled
  /-- There is no client yet that has the attribute. -/
  | noClient (name : Text)
  /-- An action that needs a target and got none. -/
  | missingTarget (action : Text)
  | unknownLevel (name : Text)
  /-- The URL on the command line is the separator of arguments, which is no text. -/
  | urlNotText

namespace Failure

def errorClass : Failure → ErrorClass
  | fault f => f.errorClass
  | closedSocket => .os
  | truncated _ => .connection
  | surrogates _ => .encoding
  | unserializable | unnamedEndpoint | arity _ | endpointCalled | urlNotText => .type
  | clockRange => .overflow
  | rpc _ => .rpc
  | tooDeep _ | unwritable .depth => .recursion
  | noSuchMethod _ | nameNotText _ | noClient _ => .missingAttribute
  | closedReader | endpoint _ | unknownTransport _ | missingTarget _ | unknownLevel _
  | unwritable .digits => .value

/-- The failure comes from the operating system or the network. -/
def isOS (f : Failure) : Bool := f.errorClass.isOS

def message : Failure → Text
  | fault f => f.message
  | closedSocket => "[Errno 9] Bad file descriptor"
  | closedReader => "readline of closed file"
  | truncated received =>
    text "connection closed after " ++ Text.ofNat received ++
      text " bytes, expected a newline-terminated response"
  | surrogates run => run.message
  | unserializable => "Object of type object is not JSON serializable"
  | unwritable excess => excess.message
  | clockRange => "int too large to convert to float"
  | rpc e => e.message
  | tooDeep nesting => (Json.Flaw.depth nesting).message []
  | endpoint e => e.message
  | unknownTransport scheme => text "Unknown transport type: " ++ scheme
  | unnamedEndpoint => "__str__ returned non-string (type NoneType)"
  | noSuchMethod name => name
  | arity m => m.message
  | nameNotText type => text "'" ++ type ++ text "' object has no attribute 'split'"
  | endpointCalled => "'Endpoint' object is not callable"
  | noClient name => text "'NoneType' object has no attribute '" ++ name ++ text "'"
  | missingTarget action =>
    action ++ text " requires a process name, a group name with --group, or 'all'"
  | unknownLevel name => text "Unknown level: " ++ name.quoted
  | urlNotText => "unhashable type: 'list'"

end Failure

end SupervisorRpc
