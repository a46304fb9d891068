import ClimateNode.Automata.Machine
import ClimateNode.Automata.Doorbell
import ClimateNode.Automata.Monitor
import ClimateNode.Wire.Proto3
import ClimateNode.Wire.Message
import ClimateNode.Wire.LittleEndian
import ClimateNode.Shared.AppChannels
import ClimateNode.Shared.CanLink
import ClimateNode.Shared.Heartbeat
import ClimateNode.Shared.Protocol
import ClimateNode.Shared.Fields
import ClimateNode.Shared.Telemetry
import ClimateNode.Shared.CommandWire
import ClimateNode.Shared.Commands
import ClimateNode.Shared.Ack
import ClimateNode.Gateway.Liveness
import ClimateNode.Gateway.HeartbeatQueue
import ClimateNode.Gateway.Relay
import ClimateNode.Gateway.StatusPublish
import ClimateNode.Gateway.Session
import ClimateNode.Gateway.Discipline
import ClimateNode.Gateway.Passes
import ClimateNode.Gateway.PacketIds
import ClimateNode.Gateway.Incoming
import ClimateNode.Peer.Node
import ClimateNode.Link.Acks
import ClimateNode.Link.SchemaVersion
import ClimateNode.Link.IsoTp
import ClimateNode.Link.Downlink
import ClimateNode.Gateway.RoundTrip
import ClimateNode.Gateway.AckRelease
import ClimateNode.Gateway.MainLoop
import ClimateNode.Peer.Telemetry
import ClimateNode.Peer.MainLoop
import ClimateNode.Link.AtMostOnce
import ClimateNode.Link.Uplink
import ClimateNode.Gateway.StatusTopic
import ClimateNode.Gateway.Wakeup
import ClimateNode.Gateway.PollSet
import ClimateNode.Gateway.Independence
import ClimateNode.Gateway.Payload
import ClimateNode.Gateway.ErrorPaths
import ClimateNode.Peer.InFlight
import ClimateNode.Peer.Beats
import ClimateNode.Shared.SensorThread
import ClimateNode.Gateway.Timers
import ClimateNode.Gateway.Deadline
import ClimateNode.Gateway.Spin
import ClimateNode.Gateway.Backoff
import ClimateNode.Automata.Product
import ClimateNode.Automata.Replay
import ClimateNode.Automata.Refinement
import ClimateNode.Automata.Edges
import ClimateNode.Mqtt.Broker
import ClimateNode.Shared.AddressMap
import ClimateNode.Shared.Acquisition
import ClimateNode.Shared.Readings
import ClimateNode.Shared.CommandPath
import ClimateNode.Peer.Publish
import ClimateNode.Peer.Reports
import ClimateNode.Peer.LinkState
import ClimateNode.Gateway.RxLoop
import ClimateNode.Gateway.Presence
import ClimateNode.Gateway.Published
import ClimateNode.Gateway.LastWill
import ClimateNode.Gateway.Accounts
import ClimateNode.Gateway.WholeLoop
import ClimateNode.Gateway.LoopView
import ClimateNode.Gateway.LoopCalls
import ClimateNode.Gateway.LoopRefinement
import ClimateNode.Gateway.RetainedStatus
import ClimateNode.Link.Heartbeats
import ClimateNode.Link.HostView
import ClimateNode.Host.Command
import ClimateNode.Host.CommandTrip
import ClimateNode.Host.Monitor
