import RegionGate.App.Config
import RegionGate.App.Reload
import RegionGate.App.Shutdown
import RegionGate.Auth.ServerHash
import RegionGate.Backend.Conformance
import RegionGate.Backend.InterruptProgress
import RegionGate.Botfilter.Blocks
import RegionGate.Botfilter.Observation
import RegionGate.Bridge.HonestClient
import RegionGate.Codec.CipherStream
import RegionGate.Forwarding.Unambiguous
import RegionGate.Protocol.Agreement
import RegionGate.Protocol.Bounds
import RegionGate.Protocol.Play.ActionBar
import RegionGate.Protocol.Play.Clientbound
import RegionGate.Protocol.Strings
import RegionGate.Queue.Scheduler
import RegionGate.Ratelimit.Limiter
import RegionGate.Server.Accounting
import RegionGate.Server.BarrierReplay
import RegionGate.Server.Departure
import RegionGate.Server.HonestKeepAlive
import RegionGate.Server.LoginOutcome
import RegionGate.Server.Shutdown
import RegionGate.Server.Stranded
import RegionGate.Server.WriteDeadline
import RegionGate.Session.Discipline
import RegionGate.Transfer.ClientConfiguration
import RegionGate.Transfer.Lifecycle
import RegionGate.Transfer.PrepareHealth
import RegionGate.Transport.Callers
import RegionGate.Transport.Limits
import RegionGate.Transport.RoundTrip
import RegionGate.Transport.Writer
