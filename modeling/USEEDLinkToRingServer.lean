import USEEDLinkToRingServer.Library.Machine
import USEEDLinkToRingServer.Library.Fairness
import USEEDLinkToRingServer.Library.Scheduling
import USEEDLinkToRingServer.Library.ConditionVariable
import USEEDLinkToRingServer.Library.LossyFifo
import USEEDLinkToRingServer.Library.Rounding
import USEEDLinkToRingServer.Library.Streak
import USEEDLinkToRingServer.Library.Future
import USEEDLinkToRingServer.Library.Separated
import USEEDLinkToRingServer.Library.AListSum
import USEEDLinkToRingServer.Library.Fallible
import USEEDLinkToRingServer.Library.Moments
import USEEDLinkToRingServer.Library.Watermark
import USEEDLinkToRingServer.Library.Objects
import USEEDLinkToRingServer.Library.Tokens
import USEEDLinkToRingServer.Library.Runs
import USEEDLinkToRingServer.Library.Journal
import USEEDLinkToRingServer.Library.Memory
import USEEDLinkToRingServer.Standard
import USEEDLinkToRingServer.StreamIdentifier
import USEEDLinkToRingServer.Libmseed
import USEEDLinkToRingServer.IdentifierObjects
import USEEDLinkToRingServer.IdentifierNames
import USEEDLinkToRingServer.Packet
import USEEDLinkToRingServer.PacketObjects
import USEEDLinkToRingServer.Known
import USEEDLinkToRingServer.ReplacedData
import USEEDLinkToRingServer.DataLinkPacket
import USEEDLinkToRingServer.PackingPasses
import USEEDLinkToRingServer.MiniSEED
import USEEDLinkToRingServer.RecordWalk
import USEEDLinkToRingServer.RecordRelease
import USEEDLinkToRingServer.StartTime
import USEEDLinkToRingServer.EndTimes
import USEEDLinkToRingServer.StreamIdentity
import USEEDLinkToRingServer.RoundTrip
import USEEDLinkToRingServer.StreamMetrics
import USEEDLinkToRingServer.MetricsConservation
import USEEDLinkToRingServer.PacketClasses
import USEEDLinkToRingServer.ActivitySummary
import USEEDLinkToRingServer.ObservedCounters
import USEEDLinkToRingServer.StreamHistory
import USEEDLinkToRingServer.WindowStatistics
import USEEDLinkToRingServer.FailedUpdates
import USEEDLinkToRingServer.WindowGauges
import USEEDLinkToRingServer.IdentifierEquality
import USEEDLinkToRingServer.BoundedQueue
import USEEDLinkToRingServer.DropOldest
import USEEDLinkToRingServer.DataLinkClient
import USEEDLinkToRingServer.WriterCounters
import USEEDLinkToRingServer.ReconnectLoop
import USEEDLinkToRingServer.WakeUp
import USEEDLinkToRingServer.PacketInWork
import USEEDLinkToRingServer.WriterRelay
import USEEDLinkToRingServer.StreamNames
import USEEDLinkToRingServer.SEEDLinkClient
import USEEDLinkToRingServer.StateFile
import USEEDLinkToRingServer.PollingLoop
import USEEDLinkToRingServer.Boost
import USEEDLinkToRingServer.StreamSelector
import USEEDLinkToRingServer.SelectorText
import USEEDLinkToRingServer.BlankLoop
import USEEDLinkToRingServer.SelectorGrammar
import USEEDLinkToRingServer.SelectorTypes
import USEEDLinkToRingServer.SelectorSpacing
import USEEDLinkToRingServer.SEEDLinkClientOptions
import USEEDLinkToRingServer.SEEDLinkSection
import USEEDLinkToRingServer.SelectorLists
import USEEDLinkToRingServer.Process
import USEEDLinkToRingServer.PacketFlow
import USEEDLinkToRingServer.RelayAccounts
import USEEDLinkToRingServer.ThreadLifecycle
import USEEDLinkToRingServer.Shutdown
import USEEDLinkToRingServer.WorkerLifeCycle
import USEEDLinkToRingServer.RequestedStop
import USEEDLinkToRingServer.SavedState
import USEEDLinkToRingServer.ThreadTurns
import USEEDLinkToRingServer.ThreadOrders
import USEEDLinkToRingServer.ProcessEnd
import USEEDLinkToRingServer.DataLinkClientOptions
import USEEDLinkToRingServer.SEEDLinkOptionsObjects
import USEEDLinkToRingServer.ProgramOptions
import USEEDLinkToRingServer.ConfiguredWriters
import USEEDLinkToRingServer.ConfiguredExporters
import USEEDLinkToRingServer.Configuration
import USEEDLinkToRingServer.WrittenRecords
import USEEDLinkToRingServer.Subscription
import USEEDLinkToRingServer.Connections
import USEEDLinkToRingServer.ConnectionUse
import USEEDLinkToRingServer.Program
