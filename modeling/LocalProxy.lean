import LocalProxy.Api.Auth
import LocalProxy.Api.Request
import LocalProxy.Api.Respond
import LocalProxy.Api.Response
import LocalProxy.Api.Route
import LocalProxy.Api.Stream
import LocalProxy.Bootstrap
import LocalProxy.Config
import LocalProxy.Config.Check
import LocalProxy.Config.Document
import LocalProxy.Dns.Message
import LocalProxy.Dns.Name
import LocalProxy.Dns.Record
import LocalProxy.Dns.RecordType
import LocalProxy.Dns.Resolver
import LocalProxy.Dns.Wire
import LocalProxy.Events.Bus
import LocalProxy.Events.Level
import LocalProxy.Files
import LocalProxy.Handshake.Exchange
import LocalProxy.Handshake.Head
import LocalProxy.Handshake.Inbound
import LocalProxy.Handshake.ProxyRequest
import LocalProxy.Handshake.Reader
import LocalProxy.Hub
import LocalProxy.Inbound
import LocalProxy.Json
import LocalProxy.Json.Reader
import LocalProxy.Listening.Handle
import LocalProxy.Listening.Inbounds
import LocalProxy.Listening.Manager
import LocalProxy.Listening.Sockets
import LocalProxy.Listening.Tunnels
import LocalProxy.Log.Filter
import LocalProxy.Log.Record
import LocalProxy.Main
import LocalProxy.Net.Endpoint
import LocalProxy.Net.Ip
import LocalProxy.Net.Target
import LocalProxy.Options
import LocalProxy.Program
import LocalProxy.Proofs.Config.Check
import LocalProxy.Proofs.Hub.Addresses
import LocalProxy.Proofs.Hub.Convergence
import LocalProxy.Proofs.Hub.Operations
import LocalProxy.Proofs.Hub.Reloads
import LocalProxy.Proofs.Hub.Runs
import LocalProxy.Proofs.Listening.Books
import LocalProxy.Proofs.Listening.Calls
import LocalProxy.Proofs.Listening.ExclusiveHost
import LocalProxy.Proofs.Listening.Inbounds
import LocalProxy.Proofs.Listening.Layer
import LocalProxy.Proofs.Listening.Plans
import LocalProxy.Proofs.Listening.Reconciliation
import LocalProxy.Proofs.Listening.Runs
import LocalProxy.Proofs.Listening.Settling
import LocalProxy.Proofs.Listening.Trace
import LocalProxy.Proofs.Listening.Tunnels
import LocalProxy.Reconcile
import LocalProxy.Relay.Connection
import LocalProxy.Relay.Copy
import LocalProxy.Relay.Flows
import LocalProxy.Relay.Outbound
import LocalProxy.Relay.Packet
import LocalProxy.Rule
import LocalProxy.Server
import LocalProxy.Settings
import LocalProxy.Socks.Address
import LocalProxy.Socks.Datagram
import LocalProxy.Socks.Handshake
import LocalProxy.Text
import LocalProxy.Text.Base64
import LocalProxy.Text.Punycode
import LocalProxy.Text.Quoted
import LocalProxy.Text.Shortest
import LocalProxy.Text.Unprintable
import LocalProxy.Text.Utf8
import LocalProxy.Traffic.Metadata
import LocalProxy.Traffic.Statistics
import LocalProxy.Traffic.Ticker
import LocalProxy.Traffic.Uuid
import LocalProxy.Tunnel
import LocalProxy.Yaml.Core
import LocalProxy.Yaml.Cursor
import LocalProxy.Yaml.Decode
import LocalProxy.Yaml.Node
import LocalProxy.Yaml.Scalar
import LocalProxy.Yaml.Token
import LocalProxy.Proofs.Hub.Coherence
import LocalProxy.Proofs.Hub.Shutdown
import LocalProxy.Proofs.Events.Deeds
import LocalProxy.Proofs.Events.Queues
import LocalProxy.Proofs.Api.Auth
import LocalProxy.Proofs.Api.Refusal
import LocalProxy.Proofs.Api.Secrecy
import LocalProxy.Proofs.Hub.Repetition
import LocalProxy.Proofs.Hub.Isolation
import LocalProxy.Proofs.Listening.Fates
import LocalProxy.Proofs.Traffic.Listing
import LocalProxy.Proofs.Relay.Payloads
import LocalProxy.Proofs.Relay.Paths
import LocalProxy.Proofs.Api.Audience
import LocalProxy.Proofs.Handshake.Arrival
import LocalProxy.Proofs.Socks.Grammar
import LocalProxy.Proofs.Text.Blanks
import LocalProxy.Proofs.Api.Secrets
import LocalProxy.Proofs.Api.Inbounds
import LocalProxy.Proofs.Hub.Dropping
import LocalProxy.Proofs.Relay.Copies
import LocalProxy.Proofs.Relay.Moves
import LocalProxy.Proofs.Relay.Progress
import LocalProxy.Proofs.Relay.Transparency
import LocalProxy.Proofs.Hub.Turns
import LocalProxy.Proofs.Hub.Patches
import LocalProxy.Proofs.Listening.Wholeness
import LocalProxy.Proofs.Handshake.Rewriting
import LocalProxy.Proofs.Socks.Datagrams
import LocalProxy.Proofs.Text.Ports
import LocalProxy.Proofs.Net.Literals
import LocalProxy.Proofs.Net.Hosts
import LocalProxy.Proofs.Handshake.Authorities
import LocalProxy.Proofs.Handshake.Credentials
import LocalProxy.Proofs.Handshake.Hostless
import LocalProxy.Proofs.Socks.Agreement
import LocalProxy.Proofs.Text.Numerals
import LocalProxy.Proofs.Net.Written
import LocalProxy.Proofs.Net.Shown
import LocalProxy.Proofs.Net.Bindings
import LocalProxy.Proofs.Dns.Awaiting
import LocalProxy.Proofs.Dns.Exchange
import LocalProxy.Proofs.Config.Tunnels
import LocalProxy.Proofs.Config.Rules
import LocalProxy.Proofs.Api.LogStreams
