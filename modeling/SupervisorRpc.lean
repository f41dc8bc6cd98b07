import SupervisorRpc.Main
import SupervisorRpc.Session
import SupervisorRpc.Connection.Script
import SupervisorRpc.Proofs.Acts
import SupervisorRpc.Proofs.Connection.Items
import SupervisorRpc.Proofs.Connection.Steps
import SupervisorRpc.Proofs.Connection.Receiving
import SupervisorRpc.Proofs.Connection.Closing
import SupervisorRpc.Proofs.Text.Decimal
import SupervisorRpc.Proofs.Text.Printable
import SupervisorRpc.Proofs.Text.Case
import SupervisorRpc.Proofs.Text.Cutting
import SupervisorRpc.Proofs.Url.Parts
import SupervisorRpc.Proofs.Url.Authority
import SupervisorRpc.Proofs.Json.Printable
import SupervisorRpc.Proofs.Json.Grammar
import SupervisorRpc.Proofs.Json.Strings
import SupervisorRpc.Proofs.Json.Reading
import SupervisorRpc.Proofs.Json.Writing
import SupervisorRpc.Proofs.Json.Settled
import SupervisorRpc.Proofs.Json.Continuing
import SupervisorRpc.Proofs.Json.Image
import SupervisorRpc.Proofs.Json.Excess
import SupervisorRpc.Proofs.Json.Indenting
import SupervisorRpc.Proofs.Text.Encoding
import SupervisorRpc.Proofs.Text.Decoding
import SupervisorRpc.Proofs.Text.Replacing
import SupervisorRpc.Proofs.Connection.Framing
import SupervisorRpc.Proofs.Boundary
import SupervisorRpc.Proofs.Report
import SupervisorRpc.Proofs.Unreadable
import SupervisorRpc.Proofs.Dial
import SupervisorRpc.Proofs.Endpoint.Reading
import SupervisorRpc.Proofs.Endpoint.TcpUrl
import SupervisorRpc.Proofs.Endpoint.Label
import SupervisorRpc.Proofs.Endpoint.Paths
import SupervisorRpc.Proofs.Endpoint.Spellings
import SupervisorRpc.Proofs.Client.Params
import SupervisorRpc.Proofs.Client.Run
import SupervisorRpc.Proofs.Client.Trace
import SupervisorRpc.Proofs.Client.Request
import SupervisorRpc.Proofs.Client.Reply
import SupervisorRpc.Proofs.Client.Metrics
import SupervisorRpc.Proofs.Client.Closing
import SupervisorRpc.Proofs.Client.Logging
import SupervisorRpc.Proofs.Client.Transport
import SupervisorRpc.Proofs.Accounts
import SupervisorRpc.Proofs.Telemetry
import SupervisorRpc.Proofs.Session.Runs
import SupervisorRpc.Proofs.Session.Isolation
import SupervisorRpc.Proofs.Instruments
import SupervisorRpc.Proofs.Session.Providers
import SupervisorRpc.Proofs.Sockets
import SupervisorRpc.Proofs.Options.Reading
import SupervisorRpc.Proofs.CommandLine
import SupervisorRpc.Proofs.Program.Calls
import SupervisorRpc.Proofs.Program.Methods
import SupervisorRpc.Proofs.Program.Endings
import SupervisorRpc.Proofs.Program.Observation
import SupervisorRpc.Proofs.Program.Answers
import SupervisorRpc.Proofs.Program.Output
import SupervisorRpc.Proofs.Method.Name
import SupervisorRpc.Proofs.Client.Naming
import SupervisorRpc.Proofs.Json.Places
import SupervisorRpc.Proofs.Client.Diagnosis
