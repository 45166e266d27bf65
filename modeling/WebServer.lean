import WebServer.Address
import WebServer.Bytes
import WebServer.Chain
import WebServer.Chain.Stock
import WebServer.Chunked
import WebServer.Config
import WebServer.Config.Reader
import WebServer.Conn
import WebServer.Cycle
import WebServer.Digest.Base64
import WebServer.Digest.Sha1
import WebServer.Domain
import WebServer.Domain.Label
import WebServer.Domain.Mapping
import WebServer.Domain.Punycode
import WebServer.Endpoint
import WebServer.Headers
import WebServer.Ipv4
import WebServer.Ipv6
import WebServer.Link
import WebServer.Link.Sink
import WebServer.Method
import WebServer.Multipart
import WebServer.ParseError
import WebServer.Pool
import WebServer.Pool.Schedule
import WebServer.Proofs.Chunked.Growth
import WebServer.Proofs.Delimiter
import WebServer.Proofs.Request.Growth
import WebServer.Proofs.Request.Stage
import WebServer.Reaper
import WebServer.Request
import WebServer.Request.Framing
import WebServer.Request.Head
import WebServer.Request.Parser
import WebServer.Request.Reader
import WebServer.Response
import WebServer.Response.Writer
import WebServer.Route.Pattern
import WebServer.Route.Registry
import WebServer.Route.Router
import WebServer.Script
import WebServer.Serve
import WebServer.Server
import WebServer.Sock
import WebServer.SockTable
import WebServer.Status
import WebServer.Target
import WebServer.Target.Host
import WebServer.Target.Path
import WebServer.Target.Query
import WebServer.Target.Url
import WebServer.Text.Blank
import WebServer.Text.Boundary
import WebServer.Text.Lossy
import WebServer.Text.Number
import WebServer.Text.Quoted
import WebServer.Text.Split
import WebServer.Text.Visible
import WebServer.Trace
import WebServer.Unicode.Combining
import WebServer.Unicode.Decomposition
import WebServer.Unicode.Direction
import WebServer.Unicode.Joining
import WebServer.Unicode.Mark
import WebServer.Unicode.Normal
import WebServer.Unicode.Table
import WebServer.WebSocket.Frame
import WebServer.WebSocket.Handler
import WebServer.WebSocket.Handshake
import WebServer.WebSocket.Message
import WebServer.WebSocket.Outbox
import WebServer.WebSocket.Session
import WebServer.Yaml.Layout
import WebServer.Yaml.Letter
import WebServer.Yaml.Node
import WebServer.Yaml.Scalar
import WebServer.Yaml.Token
import WebServer.Proofs.Request.Reader
import WebServer.Proofs.Request.Rejection
import WebServer.Proofs.Link.Delivery
import WebServer.Proofs.Response.Sending
import WebServer.Proofs.Conn
import WebServer.Proofs.Cycle.Answer
import WebServer.Proofs.Serve.Pipeline
import WebServer.Proofs.Chunked.RoundTrip
import WebServer.Proofs.Request.Message
import WebServer.Proofs.Request.RoundTrip
import WebServer.Proofs.Chunked.Extent
import WebServer.Proofs.Request.Extent
import WebServer.Proofs.Response.Head
import WebServer.Proofs.Response.Body
import WebServer.Proofs.Cycle.Persistence
import WebServer.Proofs.Cycle.HeadOnly
import WebServer.Proofs.Pool.Step
import WebServer.Proofs.Pool.Ledger
import WebServer.Proofs.Pool.Occupancy
import WebServer.Proofs.Pool.Progress
import WebServer.Proofs.Pool.Schedule
import WebServer.Proofs.WebSocket.Frame
import WebServer.Proofs.Link.Horizon
import WebServer.Proofs.Link.Waiting
import WebServer.Proofs.WebSocket.Closing
import WebServer.Proofs.WebSocket.Transcript
import WebServer.Proofs.WebSocket.Wire
import WebServer.Proofs.Serve.Upgrade
import WebServer.Proofs.SockTable.History
import WebServer.Proofs.Route.Resolution
import WebServer.Proofs.Target.Path
import WebServer.Proofs.Route.Guard
import WebServer.Proofs.Chunked.Backlog
import WebServer.Proofs.Request.Backlog
import WebServer.Proofs.WebSocket.Fragmentation
import WebServer.Proofs.WebSocket.Arrival
import WebServer.Proofs.Server.Lifecycle
import WebServer.Proofs.WebSocket.MessageSize
import WebServer.Proofs.Chunked.Encoding
import WebServer.Proofs.Chunked.Resume
import WebServer.Proofs.Chunked.Grammar
import WebServer.Proofs.Chunked.Arithmetic
import WebServer.Proofs.Request.Accepted
import WebServer.Proofs.Multipart.RoundTrip
import WebServer.Proofs.Multipart.Layout
import WebServer.Proofs.Route.Pattern
import WebServer.Proofs.Route.Registry
import WebServer.Proofs.Route.Chaining
import WebServer.Proofs.Chain.Fold
import WebServer.Proofs.Cycle.Opening
import WebServer.Proofs.SockTable.Sweep
import WebServer.Proofs.SockTable.Entry
import WebServer.Proofs.Serve.Membership
import WebServer.Proofs.WebSocket.Reason
