import RzRouter.Library.FiniteMap
import RzRouter.Library.Transition
import RzRouter.Library.Text
import RzRouter.Library.Ownership
import RzRouter.Library.Pool
import RzRouter.Library.Places
import RzRouter.Library.Rounds
import RzRouter.Library.LittleEndian
import RzRouter.Library.Program
import RzRouter.Library.Framing
import RzRouter.Library.Scanner
import RzRouter.Library.Grammar
import RzRouter.Error
import RzRouter.Config
import RzRouter.Resolver
import RzRouter.Protocol
import RzRouter.Response
import RzRouter.RoutingState
import RzRouter.Demux
import RzRouter.Demux.FlatMap
import RzRouter.HopManager
import RzRouter.Hop.Pick
import RzRouter.Hop.RoundRobin
import RzRouter.Hop
import RzRouter.Hop.TickRules
import RzRouter.Hop.SelfHealing
import RzRouter.Hop.LiveConnections
import RzRouter.Hop.Retirement
import RzRouter.Hop.Addresses
import RzRouter.Operations
import RzRouter.Connection
import RzRouter.Forwarder
import RzRouter.Network.Loops
import RzRouter.Network.Failover
import RzRouter.Network.Effort
import RzRouter.Network.FixedTable
import RzRouter.Network.CallProtocol
import RzRouter.Network.TaskSteps
import RzRouter.Network.Tasks
import RzRouter.Network.Stream
import RzRouter.Network.System
import RzRouter.Network.Steps
import RzRouter.Network.Moves
import RzRouter.Network.Ids
import RzRouter.Network.Shape
import RzRouter.Network.Responses
import RzRouter.Network.AtMostOnce
import RzRouter.Network.Writes
import RzRouter.Network.Isolation
import RzRouter.Network.Waiters
import RzRouter.Network.Stranded
import RzRouter.Network.FreshIds
import RzRouter.Network.ClosedConnections
import RzRouter.TcpServer
import RzRouter.Client.Decoding
import RzRouter.Client.Turns
import RzRouter.Client.Dispatch
import RzRouter.Client.Replies
import RzRouter.Client.Resync
import RzRouter.Client.FrameTimeout
import RzRouter.Client.LateRead
import RzRouter.Wire.ResponseGrammar
import RzRouter.Wire.BuiltResponses
import RzRouter.Wire.GetSegments
import RzRouter.Wire.RouterGrammar
import RzRouter.Client.SizeLimits
import RzRouter.Wire.Rewriting
import RzRouter.Wire.HopFrames
import RzRouter.Rzid
import RzRouter.Refresh
import RzRouter.Sync.Edge
import RzRouter.Sync.Zone
import RzRouter.Sync.FailedSync
import RzRouter.Sync.Tick
import RzRouter.Sync.EdgeTick
import RzRouter.Sync.RemovedZones
import RzRouter.Sync.EdgeCoherence
import RzRouter.Sync.ZoneTick
import RzRouter.Sync.ZoneCoherence
import RzRouter.Sync.HopRegistry
import RzRouter.Sync.HopLists
import RzRouter.Sync.RegistryTicks
import RzRouter.Sync.Interleaving
import RzRouter.Sync.ListedSegments
import RzRouter.Sync.Quiescence
import RzRouter.Sync.OrderIndependence
import RzRouter.Sync.Provenance
import RzRouter.Sync.EdgeTopology
import RzRouter.Router
import RzRouter.Router.Served
import RzRouter.Router.Routes
import RzRouter.Router.Sent
import RzRouter.Router.Listed
import RzRouter.Metrics
import RzRouter.Server
import RzRouter.Server.Slots
import RzRouter.Server.Counters
import RzRouter.Tiers
import RzRouter.Tiers.Streams
import RzRouter.Tiers.Answers
import RzRouter.Tiers.Writes
