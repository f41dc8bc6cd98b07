import SupervisorRpc.Url.Basic

/-! Where the daemon listens: a TCP host and port, or a Unix domain socket.  `Endpoint.parse` reads an
endpoint from a URL or a plain path. -/

namespace SupervisorRpc

/-- The address that a connection dials. -/
inductive Address where
  | tcp (host : Text) (port : Nat)
  | unix (path : Text)
deriving DecidableEq

/-- Where the daemon listens, and the URL that says so. -/
structure Endpoint where
  url : Text
  address : Address
deriving DecidableEq

/-- Why a URL is no endpoint. -/
inductive EndpointError where
  | url (e : Url.Error)
  /-- A port that is no number. -/
  | port (written : Text)
  /-- A port of too many digits to be read at all. -/
  | portDigits (count : Nat)
  | portRange
  /-- A URL that lacks a host, a port or a path. -/
  | incomplete (url : Text)
deriving DecidableEq

namespace EndpointError

/-- The most digits of a written port that is read. -/
def digitLimit : Nat := 4300

def message : EndpointError → Text
  | .url e => e.message
  | .port written => text "Port could not be cast to integer value as " ++ written.quoted
  | .portDigits count =>
    text "Exceeds the limit (" ++ Text.ofNat digitLimit ++
      text " digits) for integer string conversion: value has " ++ Text.ofNat count ++
      text " digits; use sys.set_int_max_str_digits() to increase the limit"
  | .portRange => "Port out of range 0-65535"
  | .incomplete given => text "invalid URL " ++ given.quoted

end EndpointError

/-- The name of the daemon's socket in a home directory. -/
def socketName : Text := ".gonit.sock"

/-- The daemon's socket in the home directory `home`: slashes at the end of the directory count
once. -/
def defaultSocketPath (home : Text) : Text :=
  Text.dropRightWhile (· = point '/') home ++ point '/' :: socketName

namespace Endpoint

def tcpScheme : Text := "tcp"
def unixScheme : Text := "unix"

/-- The number of a written port. -/
def readPort (written : Text) : Except EndpointError Nat :=
  if !written.isAsciiNumber then .error (.port written)
  else if EndpointError.digitLimit < written.length then .error (.portDigits written.length)
  else if Text.digitsValue written ≤ 65535 then .ok (Text.digitsValue written)
  else .error .portRange

/-- The TCP address of a URL's authority.  The port is looked at before the host. -/
def tcpAddress (url authority : Text) : Except EndpointError Address :=
  let (host, written) := Url.hostPort authority
  match written.mapM readPort with
  | .error e => .error e
  | .ok none => .error (.incomplete url)
  | .ok (some port) =>
    if host = [] then .error (.incomplete url) else .ok (.tcp (Url.lowerHost host) port)

/-- The address of a URL.  A text without a scheme is a path as it stands. -/
def addressOf (url : Text) : Except EndpointError Address :=
  match Url.split url with
  | .error e => .error (.url e)
  | .ok parts =>
    if parts.scheme = tcpScheme then tcpAddress url parts.authority
    else
      let path := if parts.scheme = [] then url else parts.path
      if path = [] then .error (.incomplete url) else .ok (.unix path)

/-- The endpoint of a URL, or of the socket in the home directory where there is no URL. -/
def parse (home : Text) (url : Option Text) : Except EndpointError Endpoint :=
  let url := url.getD (defaultSocketPath home)
  (addressOf url).map fun address => ⟨url, address⟩

/-- The scheme of an endpoint's address. -/
def scheme (e : Endpoint) : Text :=
  match e.address with
  | .tcp _ _ => tcpScheme
  | .unix _ => unixScheme

def host? (e : Endpoint) : Option Text :=
  match e.address with
  | .tcp host _ => some host
  | .unix _ => none

def port? (e : Endpoint) : Option Nat :=
  match e.address with
  | .tcp _ port => some port
  | .unix _ => none

def path? (e : Endpoint) : Option Text :=
  match e.address with
  | .tcp _ _ => none
  | .unix path => some path

/-- An endpoint as messages name it. -/
def label (e : Endpoint) : Text :=
  match e.address with
  | .tcp host port => text "tcp://" ++ host ++ text ":" ++ Text.ofNat port
  | .unix path => path

end Endpoint

end SupervisorRpc
