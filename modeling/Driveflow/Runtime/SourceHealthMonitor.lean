import Driveflow.Runtime.SensorStreamTracker

/-!
# The source health monitor

`source_health_monitor.hpp` and `source_health_monitor.cpp`: the tracker, one health record for each
admitted source, and the rules that read a status off a record at a report time. Every member
function holds one mutex from beginning to end, so a call is one step.

Durations are signed 64-bit nanosecond counts, as `std::chrono::nanoseconds` is. A rate is the exact
quotient the floating-point division approximates.
-/

namespace Driveflow.Runtime

open Library Net Protocol

def kRecentTimestampCapacity : Nat := 64
def kNanosecondsPerSecond : ℚ := 1000000000

theorem kRecentTimestampCapacity_pos : 0 < kRecentTimestampCapacity := Nat.succ_pos _

def saturatingIncrement (value : BitVec 64) : BitVec 64 :=
  if value ≠ BitVec.allOnes 64 then value + 1 else value

/-- `duration_ns`: the cast to an unsigned count. -/
def durationNs (duration : BitVec 64) : BitVec 64 := duration

def elapsedOrZero (now before : BitVec 64) : BitVec 64 :=
  if now ≥ before then now - before else 0

/-- `std::max`. -/
def stdMax (a b : BitVec 64) : BitVec 64 := if a < b then b else a

inductive SourceHealthStatus where
  | kUnknown
  | kHealthy
  | kDegraded
  | kOffline
  deriving DecidableEq, Repr

inductive SourceHealthIssue where
  | kPayloadRejected
  | kQueueDropped
  deriving DecidableEq, Repr

structure SourceHealthMonitorConfig where
  maxSources : Nat := 256
  healthyAfterPackets : BitVec 64 := 2
  degradedAfter : BitVec 64 := 500000000
  offlineAfter : BitVec 64 := 2000000000
  recoveryAfter : BitVec 64 := 1000000000
  deriving DecidableEq, Repr

structure SourceHealthSnapshot where
  source : SensorSource
  status : SourceHealthStatus
  packetsReceived : BitVec 64
  firstReceiveTimestampNs : BitVec 64
  lastReceiveTimestampNs : BitVec 64
  inactivityNs : BitVec 64
  currentRateHz : ℚ
  latestLatencyNs : BitVec 64
  maximumLatencyNs : BitVec 64
  timestampAnomalies : BitVec 64
  gapObservations : BitVec 64
  duplicateObservations : BitVec 64
  reorderedObservations : BitVec 64
  missingSamplesInferred : BitVec 64
  payloadsRejected : BitVec 64
  packetsDroppedQueueFull : BitVec 64
  deriving DecidableEq

structure SourceHealthReport where
  streamMetrics : SensorStreamMetrics
  sources : List SourceHealthSnapshot
  deriving DecidableEq

namespace SourceHealthMonitor

def validateConfig (config : SourceHealthMonitorConfig) :
    Except Exception SourceHealthMonitorConfig :=
  if config.maxSources = 0 then
    .error (.invalidArgument "source health monitor capacity must be greater than zero")
  else if config.healthyAfterPackets = 0 then
    .error (.invalidArgument "source health healthy packet count must be greater than zero")
  else if config.degradedAfter.toInt ≤ 0 then
    .error (.invalidArgument "source health degraded timeout must be greater than zero")
  else if config.offlineAfter.toInt ≤ config.degradedAfter.toInt then
    .error (.invalidArgument "source health offline timeout must exceed degraded timeout")
  else if config.recoveryAfter.toInt ≤ 0 then
    .error (.invalidArgument "source health recovery duration must be greater than zero")
  else .ok config

/-! ## One health record -/

/-- `SourceState`, without the source it is filed under. -/
structure SourceState where
  recentTimestamps : Vector (BitVec 64) kRecentTimestampCapacity := Vector.replicate _ 0
  recentTimestampCount : Nat := 0
  nextTimestampIndex : Fin kRecentTimestampCapacity := ⟨0, kRecentTimestampCapacity_pos⟩
  packetsReceived : BitVec 64 := 0
  firstReceiveTimestampNs : BitVec 64 := 0
  lastReceiveTimestampNs : BitVec 64 := 0
  latestLatencyNs : BitVec 64 := 0
  maximumLatencyNs : BitVec 64 := 0
  timestampAnomalies : BitVec 64 := 0
  gapObservations : BitVec 64 := 0
  duplicateObservations : BitVec 64 := 0
  reorderedObservations : BitVec 64 := 0
  missingSamplesInferred : BitVec 64 := 0
  payloadsRejected : BitVec 64 := 0
  packetsDroppedQueueFull : BitVec 64 := 0
  healthyPacketsSinceIssue : BitVec 64 := 0
  lastIssueTimestampNs : BitVec 64 := 0
  issueSeen : Bool := false
  deriving DecidableEq, Repr

namespace SourceState

def recordRecentTimestamp (state : SourceState) (timestamp : BitVec 64) : SourceState :=
  { state with
    recentTimestamps := state.recentTimestamps.set state.nextTimestampIndex timestamp
      state.nextTimestampIndex.isLt
    nextTimestampIndex :=
      ⟨(state.nextTimestampIndex + 1) % kRecentTimestampCapacity, Nat.mod_lt _ (Nat.succ_pos _)⟩
    recentTimestampCount := min (state.recentTimestampCount + 1) kRecentTimestampCapacity }

/-- `record_latency`; the flag tells whether the packet is an anomaly. -/
def recordLatency (state : SourceState) (packet : ReceivedPacket) : SourceState × Bool :=
  let sourceTimestampNs := packet.packet.header.sourceTimestampNs
  if sourceTimestampNs > packet.receiveTimestampNs then
    ({ state with
        latestLatencyNs := 0
        timestampAnomalies := saturatingIncrement state.timestampAnomalies }, true)
  else
    let latestLatencyNs := packet.receiveTimestampNs - sourceTimestampNs
    ({ state with
        latestLatencyNs
        maximumLatencyNs := stdMax state.maximumLatencyNs latestLatencyNs }, false)

def markIssue (state : SourceState) (timestamp : BitVec 64) : SourceState :=
  { state with
    issueSeen := true
    lastIssueTimestampNs := stdMax state.lastIssueTimestampNs timestamp
    healthyPacketsSinceIssue := 0 }

/-- The `switch` of `record_packet`, and what follows it. -/
def recordStatus (state : SourceState) (observation : SequenceObservation)
    (receiveTimestamp : BitVec 64) (packetHasIssue : Bool) : SourceState :=
  let finish (state : SourceState) (packetHasIssue : Bool) : SourceState :=
    if packetHasIssue then state.markIssue receiveTimestamp
    else
      { state with
        healthyPacketsSinceIssue := saturatingIncrement state.healthyPacketsSinceIssue }
  match observation.status with
  | .kFirst | .kInOrder => finish state packetHasIssue
  | .kGap =>
    finish
      { state with
        gapObservations := saturatingIncrement state.gapObservations
        missingSamplesInferred :=
          saturatingAdd state.missingSamplesInferred observation.missingSamples }
      true
  | .kDuplicate =>
    finish { state with duplicateObservations := saturatingIncrement state.duplicateObservations }
      true
  | .kReordered =>
    finish { state with reorderedObservations := saturatingIncrement state.reorderedObservations }
      true
  | .kUntracked => state

def recordPacket (state : SourceState) (packet : ReceivedPacket)
    (observation : SequenceObservation) : SourceState :=
  let receiveTimestamp := stdMax packet.receiveTimestampNs state.lastReceiveTimestampNs
  let state :=
    if state.packetsReceived = 0 then { state with firstReceiveTimestampNs := receiveTimestamp }
    else state
  let state := { state with lastReceiveTimestampNs := receiveTimestamp }
  let state := { state with packetsReceived := saturatingIncrement state.packetsReceived }
  let state := state.recordRecentTimestamp receiveTimestamp
  let (state, packetHasIssue) := state.recordLatency packet
  state.recordStatus observation receiveTimestamp packetHasIssue

/-- `observe_issue` from the point where the packet's source was found. -/
def recordIssue (state : SourceState) (packet : ReceivedPacket) (issue : SourceHealthIssue) :
    SourceState :=
  let state :=
    match issue with
    | .kPayloadRejected =>
      { state with payloadsRejected := saturatingIncrement state.payloadsRejected }
    | .kQueueDropped =>
      { state with packetsDroppedQueueFull := saturatingIncrement state.packetsDroppedQueueFull }
  state.markIssue packet.receiveTimestampNs

def currentRateHz (state : SourceState) : ℚ :=
  if state.recentTimestampCount < 2 then 0
  else
    let oldestIndex : Fin kRecentTimestampCapacity :=
      if state.recentTimestampCount < kRecentTimestampCapacity then ⟨0, kRecentTimestampCapacity_pos⟩
      else state.nextTimestampIndex
    let newestIndex : Fin kRecentTimestampCapacity :=
      ⟨(state.nextTimestampIndex + kRecentTimestampCapacity - 1) % kRecentTimestampCapacity,
        Nat.mod_lt _ (Nat.succ_pos _)⟩
    let elapsed := state.recentTimestamps[newestIndex] - state.recentTimestamps[oldestIndex]
    if elapsed = 0 then 0
    else
      let intervals := state.recentTimestampCount - 1
      (intervals : ℚ) * kNanosecondsPerSecond / (elapsed.toNat : ℚ)

def evaluateStatus (config : SourceHealthMonitorConfig) (state : SourceState)
    (nowTimestampNs : BitVec 64) : SourceHealthStatus :=
  let inactivity := elapsedOrZero nowTimestampNs state.lastReceiveTimestampNs
  if inactivity ≥ durationNs config.offlineAfter then .kOffline
  else if inactivity ≥ durationNs config.degradedAfter then .kDegraded
  else
    let recoveryElapsed := elapsedOrZero nowTimestampNs state.lastIssueTimestampNs
    if state.issueSeen ∧ (recoveryElapsed < durationNs config.recoveryAfter ∨
        state.healthyPacketsSinceIssue < config.healthyAfterPackets) then .kDegraded
    else if state.packetsReceived < config.healthyAfterPackets then .kUnknown
    else .kHealthy

def makeSnapshot (config : SourceHealthMonitorConfig) (source : SensorSource)
    (state : SourceState) (nowTimestampNs : BitVec 64) : SourceHealthSnapshot :=
  { source
    status := state.evaluateStatus config nowTimestampNs
    packetsReceived := state.packetsReceived
    firstReceiveTimestampNs := state.firstReceiveTimestampNs
    lastReceiveTimestampNs := state.lastReceiveTimestampNs
    inactivityNs := elapsedOrZero nowTimestampNs state.lastReceiveTimestampNs
    currentRateHz := state.currentRateHz
    latestLatencyNs := state.latestLatencyNs
    maximumLatencyNs := state.maximumLatencyNs
    timestampAnomalies := state.timestampAnomalies
    gapObservations := state.gapObservations
    duplicateObservations := state.duplicateObservations
    reorderedObservations := state.reorderedObservations
    missingSamplesInferred := state.missingSamplesInferred
    payloadsRejected := state.payloadsRejected
    packetsDroppedQueueFull := state.packetsDroppedQueueFull }

end SourceState

end SourceHealthMonitor

/-! ## The monitor -/

structure SourceHealthMonitor where
  config : SourceHealthMonitorConfig
  streamTracker : SensorStreamTracker
  sources : KeyedTable SensorSource SourceHealthMonitor.SourceState := KeyedTable.empty

namespace SourceHealthMonitor

/-- The constructor. -/
def make (config : SourceHealthMonitorConfig) : Except Exception SourceHealthMonitor := do
  let config ← validateConfig config
  let streamTracker ← SensorStreamTracker.make { maxSources := config.maxSources }
  .ok { config, streamTracker }

def observePacket (monitor : SourceHealthMonitor) (packet : ReceivedPacket) :
    SourceHealthMonitor × SequenceObservation :=
  let (streamTracker, observation) := monitor.streamTracker.observe packet
  if observation.status = .kUntracked then ({ monitor with streamTracker }, observation)
  else
    let source := identifySensorSource packet
    let sources :=
      match monitor.sources.lookup source with
      | none => monitor.sources.pushBack source {}
      | some _ => monitor.sources
    let sources := sources.modify source fun state => state.recordPacket packet observation
    ({ monitor with streamTracker, sources }, observation)

def observeIssue (monitor : SourceHealthMonitor) (packet : ReceivedPacket)
    (issue : SourceHealthIssue) : SourceHealthMonitor :=
  let source := identifySensorSource packet
  match monitor.sources.lookup source with
  | none => monitor
  | some _ =>
    { monitor with
      sources := monitor.sources.modify source fun state => state.recordIssue packet issue }

/-- The tuple that `report` sorts by. -/
def sortKey (value : SourceHealthSnapshot) : String ×ₗ Nat ×ₗ String ×ₗ Nat ×ₗ Nat :=
  toLex (value.source.remoteEndpoint.address,
    toLex (value.source.remoteEndpoint.port.toNat,
      toLex (value.source.listenerEndpoint.address,
        toLex (value.source.listenerEndpoint.port.toNat,
          value.source.messageType.value.toNat))))

def report (monitor : SourceHealthMonitor) (nowTimestampNs : BitVec 64) : SourceHealthReport :=
  let sources := monitor.sources.entries.map fun entry =>
    entry.2.makeSnapshot monitor.config entry.1 nowTimestampNs
  { streamMetrics := monitor.streamTracker.metrics
    sources := sources.mergeSort fun first second => sortKey first ≤ sortKey second }

end SourceHealthMonitor

end Driveflow.Runtime
