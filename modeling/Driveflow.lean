import Driveflow.Library.BigEndian
import Driveflow.Library.ShiftRegister
import Driveflow.Library.KeyedTable
import Driveflow.Library.SlidingWindow
import Driveflow.Cpp
import Driveflow.Runtime.SensorStreamTracker
import Driveflow.Runtime.SourceHealthMonitor
import Driveflow.Runtime.Runtime
import Driveflow.Laws.Runtime.ExactlyOnce
import Driveflow.Laws.Runtime.QueueOrder
import Driveflow.Laws.Runtime.ConcurrentSamples
import Driveflow.Laws.Runtime.WakeUps
import Driveflow.Laws.Runtime.SourceHealth
import Driveflow.Runtime.RuntimeConfig
import Driveflow.Laws.Runtime.CommandLine
import Driveflow.Laws.Runtime.GivenOptions
import Driveflow.Laws.Runtime.Configuration
import Driveflow.Laws.Runtime.Ledger
import Driveflow.Laws.Runtime.Shutdown
import Driveflow.Laws.Runtime.HandedSamples
import Driveflow.Laws.Runtime.Node
import Driveflow.Laws.Runtime.Joining
import Driveflow.Laws.Runtime.RunExits
import Driveflow.Laws.Runtime.Scheduling
import Driveflow.Laws.Runtime.CanonicalReport
import Driveflow.Laws.Runtime.IssueOrder
import Driveflow.Laws.Protocol.PacketIntegrity
import Driveflow.Laws.Protocol.Checksum
import Driveflow.Laws.Protocol.Framing
import Driveflow.Laws.Protocol.Accesses
import Driveflow.Laws.Protocol.Datagram
import Driveflow.Library.ReorderBuffer
import Driveflow.Laws.Simulator.Datagrams
import Driveflow.Laws.Runtime.OneSource
import Driveflow.Laws.Runtime.LossEstimate
import Driveflow.Laws.Runtime.RecentArrivals
import Driveflow.Laws.Runtime.HealthRecord
import Driveflow.Laws.Runtime.ReceiveLoop
import Driveflow.Laws.Runtime.ReceiveProgress
import Driveflow.Laws.Simulator.TrackerAgreement
import Driveflow.Laws.EndToEnd
import Driveflow.Laws.Simulator.Swap
import Driveflow.Laws.Simulator.CommandLine
import Driveflow.Laws.Simulator.SendPeriod
import Driveflow.Laws.Simulator.Pacing
import Driveflow.Laws.Simulator.GivenOptions
import Driveflow.Laws.Runtime.DescriptorOwners
import Driveflow.Laws.Runtime.ReceiverConstruction
