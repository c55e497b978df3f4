import Gotun.Lib.Stream
import Gotun.Lib.Conn
import Gotun.Lib.Codec
import Gotun.Lib.BigEndian
import Gotun.Lib.Buffered
import Gotun.Lib.System
import Gotun.Lib.Footprint
import Gotun.Lib.Script
import Gotun.Lib.Table
import Gotun.Lib.Owners
import Gotun.Lib.Text
import Gotun.Lib.Entries
import Gotun.Lib.Messages
import Gotun.Lib.Attempts
import Gotun.Lib.Rolling
import Gotun.Lib.Chan
import Gotun.Lib.RwLock
import Gotun.Lib.Changes
import Gotun.Lib.Fair
import Gotun.Lib.Endpoint
import Gotun.Core.Pipe
import Gotun.Core.PipeRuns
import Gotun.Core.PipeEnding
import Gotun.Core.PipeIdle
import Gotun.Core.Copying
import Gotun.Crypto.Gcm
import Gotun.Crypto.Record
import Gotun.Crypto.ReaderWriter
import Gotun.Crypto.Security
import Gotun.Tun.FrameStream
import Gotun.Tun.Frames
import Gotun.Tun.ProbeCalls
import Gotun.Tun.ProbeMatching
import Gotun.Tun.CryptoHelper
import Gotun.Tun.RoundTrip
import Gotun.Tun.InputHandlers
import Gotun.Tun.InputClosing
import Gotun.Tun.Startup
import Gotun.Tun.InputUDP
import Gotun.Tun.Bandwidth
import Gotun.Tun.Quality
import Gotun.Tun.Datagrams
import Gotun.Tun.HandOver
import Gotun.Tun.Chain
import Gotun.Tun.BandwidthTest
import Gotun.Tun.StreamAccounts
import Gotun.Tun.FrameProbeRunner
import Gotun.Tun.ProbeProgress
import Gotun.Tun.ServiceFiles
import Gotun.Tun.Manager
import Gotun.Tun.ManagerRuns
import Gotun.Tun.Replacement
import Gotun.Tun.Lifecycle
import Gotun.Tun.FrpsController
import Gotun.Tun.FrpsChannels
import Gotun.Tun.Frps
import Gotun.Tun.FrpcController
import Gotun.Tun.FrpSteps
import Gotun.Tun.ReverseTunnel
import Gotun.Tun.ReversePairing
import Gotun.Tun.ReverseDemand
import Gotun.Tun.RouteQuality
import Gotun.Tun.RouteSwitch
import Gotun.Tun.RouteSwitchLog
import Gotun.Tun.RouteRounds
import Gotun.Tun.RouteStatistics
import Gotun.Tun.RouteConfig
import Gotun.Tun.ConfigFiles
import Gotun.Tun.CrashSafety
import Gotun.Tun.Storage
import Gotun.Tun.Registry
import Gotun.Tun.RegistryRuns
import Gotun.Tun.Identity
import Gotun.Tun.Sections
import Gotun.Tun.SharedFiles
import Gotun.Tun.FileAgreement
import Gotun.Tun.OverlappingCalls
import Gotun.Tun.RouteUpgrade
import Gotun.Tun.Creation
import Gotun.Tun.Placement
import Gotun.Tun.Restart
import Gotun.Tun.Restorable
import Gotun.Tun.RestartRuns
import Gotun.Tun.RouteSelector
import Gotun.Tun.OutputPool
import Gotun.Tun.PoolIndex
import Gotun.Tun.PoolSlots
import Gotun.Tun.PoolClosing
import Gotun.ProbeHistory.Store
import Gotun.ProbeHistory.Query
import Gotun.Admin.Auth
import Gotun.Admin.Challenges
import Gotun.Admin.Lockout
import Gotun.Admin.FailureWindow
import Gotun.Admin.Sessions
import Gotun.Builtin.Manager
import Gotun.Builtin.Runs
import Gotun.Builtin.Replacement
import Gotun.Builtin.Listening
import Gotun.Tun.Footprints
import Gotun.Tun.Confinement
import Gotun.Builtin.Migration
import Gotun.Builtin.Lossless
import Gotun.Admin.Panel
import Gotun.Log.Hook
import Gotun.Log.Closing
import Gotun.Tun.RouteRelay
