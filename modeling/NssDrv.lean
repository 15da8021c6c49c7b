import NssDrv.NapiProgress
import NssDrv.NapiWakeup
import NssDrv.NapiHandler
import NssDrv.ReceiveQueue
import NssDrv.TransmitRing
import NssDrv.NapiIteration
import NssDrv.TransmitApi
import NssDrv.EmptyBufferRefill
import NssDrv.RingProducers
import NssDrv.ProducerRuns
import NssDrv.CoreState
import NssDrv.LinkedChain
import NssDrv.SkbMemory
import NssDrv.ReceivePath
import NssDrv.SegmentParser
import NssDrv.ReceiveAssembly
import NssDrv.ReceiveDelivery
import NssDrv.ReceiveStream
import NssDrv.SkbOwnership
import NssDrv.ReceiveBounds
import NssDrv.SkbCount
import NssDrv.ChainDelivery
import NssDrv.FrequencyScaling
import NssDrv.SampleRing
import NssDrv.ScaleDecision
import NssDrv.SampleWindow
import NssDrv.ScaleSteps
import NssDrv.ChangeHandshake
import NssDrv.ScalingSwitch
import NssDrv.CallTree
import NssDrv.ShaperBounce
import NssDrv.ShaperLocks
import NssDrv.BounceCallback
import NssDrv.CommonMessage
import NssDrv.LogBuffer
import NssDrv.LogReferences
import NssDrv.SyncRequest
import NssDrv.MessageRequests
import NssDrv.ConnectionConfig
import NssDrv.N2hRequests
import NssDrv.DynamicInterface
import NssDrv.BlockingRequests
import NssDrv.NodeNumbers
import NssDrv.RequestLinks
import NssDrv.ParkedCallbacks
import NssDrv.CapwapTunnel
import NssDrv.ThreadRuns
import NssDrv.CapwapReferences
import NssDrv.InterfaceTables
import NssDrv.CapwapRegistration
import NssDrv.SlotTables
import NssDrv.SessionRegistration
import NssDrv.SessionRuns
import NssDrv.NotifyRouting
import NssDrv.SessionStats
import NssDrv.SequentialRequests
import NssDrv.N2hSettings
import NssDrv.ConnectionRuns
import NssDrv.BufferPool
import NssDrv.BufferAccounts
import NssDrv.TransmitMappings
import NssDrv.TransmitOutcome
import NssDrv.TransmitFate
import NssDrv.TransmitUnwinding
import NssDrv.TransmitSegments
import NssDrv.TransmitLengths
import NssDrv.PhysIfMtu
import NssDrv.BufferSizes
import NssDrv.PayloadFlush
import NssDrv.CallbackContexts
import NssDrv.InterfaceSlots
import NssDrv.SlotAccounts
import NssDrv.HandlerAssertions
import NssDrv.FairRuns
import NssDrv.DecongestPoll
import NssDrv.DecongestRuns
import NssDrv.DecongestProgress
import NssDrv.DecongestDelivery
import NssDrv.DecongestLost
import NssDrv.ConnectionSync
import NssDrv.NodeTypes
import NssDrv.LogRead
import NssDrv.LogDelivery
import NssDrv.LogSizes
import NssDrv.ConnectionBringup
import NssDrv.PagedReassembly
import NssDrv.TransmitAnswers
import NssDrv.RefillResources
import NssDrv.VirtualInterfaces
import NssDrv.VirtualRecords
import NssDrv.VirtualLinks
import NssDrv.VirtualCallbacks
import NssDrv.TransmitMetadata
import NssDrv.PagedText
import NssDrv.StatsFiles
import NssDrv.PppoeStats
import NssDrv.MessageBuffers
import NssDrv.ProfilerBounds
import NssDrv.SizedMessages
import NssDrv.FrequencyChanges
import NssDrv.EarlyExit
import NssDrv.CoreProbe
import NssDrv.ProbeUnwinding
import NssDrv.FrequencyTable
import NssDrv.ProbeSteps
import NssDrv.PmClients
import NssDrv.PmHistories
import NssDrv.FifoQueue
import NssDrv.RingRefinement
import NssDrv.RaisedFlags
import NssDrv.CoreDump
import NssDrv.PanicHandler
import NssDrv.C2cExchange
import NssDrv.BoundedText
import NssDrv.CounterReports
import NssDrv.StatisticsSync
import NssDrv.StatisticsText
import NssDrv.StatisticsRuns
import NssDrv.RunHistories
import NssDrv.VirtualLifetimes
import NssDrv.LateAccesses
import NssDrv.ReceiveCounters
import NssDrv.PoolLedgers
import NssDrv.TransmitCounters
