import SupervisorRpc.Method.Catalogue
import SupervisorRpc.Method.Name
import SupervisorRpc.Options.Help
import SupervisorRpc.Options.Parse

/-! The command line of the client: global options, then a command with options of its own.  An action
may have a target; a command to the daemon has none. -/

namespace SupervisorRpc

namespace CommandLine

open Options

/-- The options before the command. -/
inductive GlobalOption where
  | help
  | rpcUrl
  | otlpEndpoint
  | verbose
deriving DecidableEq

/-- The options after the command. -/
inductive CommandOption where
  | help
  | group
deriving DecidableEq

/-- A command and what it is about. -/
inductive Command where
  | action (name : Text) (target : Option Text) (group : Bool)
  | daemon (name : Text)
deriving DecidableEq

/-- What a command line asks for.  A URL or endpoint that was given may be none, where the separator
stood in its place. -/
structure Invocation where
  rpcUrl : Option (Option Text)
  otlpEndpoint : Option (Option Text)
  verbose : Bool
  command : Option Command
deriving DecidableEq

/-- What is shown in place of an invocation. -/
inductive Notice where
  | help (shown : Text)
  | refusal (shown : Text)
deriving DecidableEq

def program : Text := "gonit-api"

def actions : List Text := ["start", "stop", "restart", "monitor", "unmonitor", "status"]

def daemonCommands : List Text := ["about", "reload", "quit"]

/-- The commands, each with a line of help. -/
def commands : List (Text × Text) :=
  actions.map (fun a => (a, Method.capitalized a ++ text " a process, a group or all")) ++
    daemonCommands.map fun c => (c, Method.capitalized c ++ text " the daemon")

/-- The option that asks for help. -/
def helpOption {κ : Type} (key : κ) : Spec κ :=
  ⟨key, ["-h", "--help"], none, "show this help message and exit", true⟩

/-- The grammar of the whole command line; `rpcUrl` is the URL where none is given. -/
def grammar (rpcUrl : Text) : Grammar GlobalOption where
  program := program
  options := [
    helpOption .help,
    ⟨.rpcUrl, ["--rpc-url"], some "RPC_URL",
      text "Daemon RPC URL: tcp://host:port or a Unix socket path (default: " ++ rpcUrl ++ text ")",
      false⟩,
    ⟨.otlpEndpoint, ["--otlp-endpoint"], some "OTLP_ENDPOINT",
      "Export traces and metrics to this OTLP receiver", false⟩,
    ⟨.verbose, ["-v", "--verbose"], none, "Enable debug logging", false⟩]
  positional := some (.command "command" "Command" commands)

/-- The grammar of what follows a command. -/
def commandGrammar (name : Text) : Grammar CommandOption where
  program := program ++ text " " ++ name
  options :=
    helpOption .help ::
      if actions.any (· = name) then [⟨.group, ["-g", "--group"], none, "NAME is a process group", false⟩]
      else []
  positional :=
    if actions.any (· = name) then some (.target "name" "Process or group name, or 'all'") else none

def description : Text := "Control a running gonit daemon"

def examples : Text :=
  Text.join (text "\n") ["Examples:", "  gonit-api status", "  gonit-api start nginx",
    "  gonit-api stop web --group", "  gonit-api --rpc-url tcp://127.0.0.1:9999 restart all"]

/-- The help on the whole command line. -/
def help (rpcUrl : Text) (layout : Layout) : Text :=
  (grammar rpcUrl).help layout description examples

/-- What is shown when a command line is refused. -/
def refusal (rpcUrl : Text) (layout : Layout) (e : UsageError) : Text :=
  (grammar rpcUrl).refusal layout e

/-- Reads a command with what follows it.  The arguments that nothing takes are left over. -/
def readCommand (rpcUrl : Text) (layout : Layout) (name : Text) (args : List Text) :
    Except Notice (Command × List Text) :=
  if !(commands.any (·.1 = name)) then
    .error (.refusal (refusal rpcUrl layout (.unknownCommand "command" name (commands.map Prod.fst))))
  else
    let grammar := commandGrammar name
    match grammar.parse args with
    | .error e => .error (.refusal (grammar.refusal layout e))
    | .ok parsed =>
      if parsed.has .help then .error (.help (grammar.help layout [] []))
      else if actions.any (· = name) then
        .ok (.action name (targetOf (parsed.positional.getD [])) (parsed.has .group), parsed.extras)
      else .ok (.daemon name, parsed.extras)

/-- Reads a command line. -/
def read (rpcUrl : Text) (layout : Layout) (args : List Text) : Except Notice Invocation :=
  match (grammar rpcUrl).parse args with
  | .error e => .error (.refusal (refusal rpcUrl layout e))
  | .ok parsed =>
    if parsed.has .help then .error (.help (help rpcUrl layout))
    else
      let invocation (command : Option Command) : Invocation :=
        ⟨parsed.value? .rpcUrl, parsed.value? .otlpEndpoint, parsed.has .verbose, command⟩
      let finish (command : Option Command) (extras : List Text) : Except Notice Invocation :=
        if extras = [] then .ok (invocation command)
        else .error (.refusal (refusal rpcUrl layout (.unrecognized extras)))
      match parsed.positional with
      | some (name :: rest) =>
        match readCommand rpcUrl layout name rest with
        | .error notice => .error notice
        | .ok (command, extras) => finish (some command) (parsed.extras ++ extras)
      | _ => finish none parsed.extras

/-- The method and parameters that a command stands for. -/
def Command.call : Command → Except Failure (Text × List Text)
  | action name target group => Method.ofAction name target group
  | daemon name => .ok (name, [])

end CommandLine

end SupervisorRpc
