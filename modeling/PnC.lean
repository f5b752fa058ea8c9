import PnC.Library.Transition
import PnC.Library.KeyedStore
import PnC.Source.Json
import PnC.Source.Message
import PnC.Source.WorkTracker
import PnC.Source.Checkpoint
import PnC.Source.TestPlugin
import PnC.Source.EchoPlugin
import PnC.Source.BenchPlugin
import PnC.Source.PwdPlugin
import PnC.Source.Producer
import PnC.Source.ProducerRun
import PnC.Source.ProducerSteps
import PnC.Source.SocketFrame
import PnC.Source.ConsumerSenders
import PnC.Source.DispatchInterleaving
import PnC.Library.Shortlex
import PnC.Library.Fips180
import PnC.Library.PrefixCode
import PnC.Library.Decimal
import PnC.Source.PwdNextUnit
import PnC.Source.PwdOdometer
import PnC.Source.PwdProgress
import PnC.Source.Resume
import PnC.Source.PluginProgress
import PnC.Source.CounterProgress
import PnC.Source.PwdResume
import PnC.Source.Sha256
import PnC.Source.Sha256Blocks
import PnC.Source.ResumedProducer
import PnC.Library.Segments
import PnC.Source.FileSystem
import PnC.Source.FileTransfer
import PnC.Source.FirstWorkUnit
import PnC.Source.ThreadPool
import PnC.Guarantees.PoolDrain
import PnC.Guarantees.PoolParallelism
import PnC.Guarantees.MalformedFrames
import PnC.Guarantees.ConsumerShutdown
import PnC.Guarantees.AtMostOnce
import PnC.Guarantees.FlowControl
import PnC.Guarantees.FramedStream
import PnC.Library.PathWalk
import PnC.Guarantees.FileExposure
import PnC.Source.ConnectionMonitor
import PnC.Guarantees.StaleEviction
import PnC.Source.ProducerThreads
import PnC.Source.ThreadSteps
import PnC.Source.WholeRequest
import PnC.Guarantees.SettledThreads
import PnC.Guarantees.HaltDispatch
import PnC.Guarantees.FinalCheckpoint
import PnC.Guarantees.FileDelivery
import PnC.Guarantees.ServedFile
import PnC.Guarantees.VerifiedSource
import PnC.Guarantees.TransparentResume
import PnC.Guarantees.UdpOrphans
import PnC.Guarantees.Reconnection
import PnC.Guarantees.ResumedNumbers
import PnC.Guarantees.ResumedProgress
import PnC.Guarantees.MessageRoundTrip
import PnC.Guarantees.CheckpointRoundTrip
import PnC.Guarantees.TrackerAccounting
import PnC.Guarantees.Redispatch
import PnC.Guarantees.CheckpointResume
import PnC.Guarantees.VersionGate
import PnC.Guarantees.ConnectionTeardown
import PnC.Guarantees.UniqueUnitIds
import PnC.Guarantees.CheckpointCrash
import PnC.Guarantees.SenderInterleaving
import PnC.Guarantees.PasswordEnumeration
import PnC.Guarantees.Sha256Conformance
import PnC.Library.Ascii
import PnC.Source.BenchHandler
import PnC.Source.Base64
import PnC.Guarantees.Base64RoundTrip
import PnC.Source.FileHash
import PnC.Guarantees.FileHashing
import PnC.Source.BenchUnits
import PnC.Guarantees.BenchPartition
import PnC.Library.ExceptBind
import PnC.Guarantees.BenchChunkSizes
import PnC.Guarantees.BenchAgreement
import PnC.Library.Separated
import PnC.Source.PwdText
import PnC.Guarantees.PasswordEncodings
import PnC.Source.PwdWalk
import PnC.Source.PwdConfig
import PnC.Guarantees.PasswordLength
import PnC.Source.PwdScan
import PnC.Source.PwdStart
import PnC.Source.PwdCalls
import PnC.Guarantees.PasswordBounds
import PnC.Guarantees.GeneratorTermination
import PnC.Library.Odometer
import PnC.Source.PwdGaps
import PnC.Source.PwdFirstUnit
import PnC.Guarantees.StartingPassword
import PnC.Guarantees.CompletedCache
import PnC.Guarantees.PendingSelection
import PnC.Guarantees.DurationParsing
import PnC.Guarantees.LoopbackHosts
import PnC.Guarantees.QueueContract
import PnC.Guarantees.PoolCounters
import PnC.Guarantees.FileRequests
import PnC.Guarantees.UdpDelivery
import PnC.Guarantees.DescriptorOwnership
import PnC.Guarantees.ExactlyOnce
import PnC.Guarantees.ResultProvenance
import PnC.Guarantees.EchoCompletion
import PnC.Guarantees.PasswordSearch
import PnC.Guarantees.ShutdownCompletes
import PnC.Guarantees.SearchCampaign
import PnC.Guarantees.BenchCoverage
import PnC.Guarantees.CallbackOrder
import PnC.Guarantees.ResultLog
