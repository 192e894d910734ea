import Driveflow.Library.KeyedTable
import Driveflow.Runtime.EpollReceiver

/-!
# The sensor stream tracker

`sensor_stream_tracker.hpp` and `sensor_stream_tracker.cpp`: one sequence classifier for each
sensor source, in constant memory, for a bounded number of sources. Counters are 64-bit words that
wrap, except the one that saturates.

The vector of states is a table under the source of each state, since a source is looked up before
one is pushed.
-/

namespace Driveflow.Runtime

open Library Net Protocol

def kSequenceHalfRange : BitVec 64 := 1#64 <<< 63
def kRecentSequenceCount : BitVec 64 := 64#64

def saturatingAdd (value increment : BitVec 64) : BitVec 64 :=
  let maximum := BitVec.allOnes 64
  if increment > maximum - value then maximum else value + increment

structure SensorStreamTrackerConfig where
  maxSources : Nat := 256
  deriving DecidableEq, Repr

structure SensorSource where
  remoteEndpoint : Ipv4Endpoint
  listenerEndpoint : Ipv4Endpoint
  messageType : MessageType
  deriving DecidableEq, Repr

def identifySensorSource (packet : ReceivedPacket) : SensorSource :=
  { remoteEndpoint := packet.source
    listenerEndpoint := packet.listener
    messageType := packet.packet.header.messageType }

inductive SequenceStatus where
  | kFirst
  | kInOrder
  | kGap
  | kDuplicate
  | kReordered
  | kUntracked
  deriving DecidableEq, Repr

structure SequenceObservation where
  status : SequenceStatus
  sequenceNumber : BitVec 64
  /-- Non-zero only for `kGap`. -/
  missingSamples : BitVec 64 := 0
  deriving DecidableEq, Repr

structure SensorStreamMetrics where
  streamsObserved : BitVec 64 := 0
  packetsObserved : BitVec 64 := 0
  firstObservations : BitVec 64 := 0
  inOrderObservations : BitVec 64 := 0
  gapObservations : BitVec 64 := 0
  duplicateObservations : BitVec 64 := 0
  reorderedObservations : BitVec 64 := 0
  untrackedObservations : BitVec 64 := 0
  missingSamplesInferred : BitVec 64 := 0
  deriving DecidableEq, Repr

namespace SensorStreamTracker

/-- `SourceState`, without the source it is filed under. -/
structure SourceState where
  highestSequence : BitVec 64
  recentSequences : BitVec 64
  deriving DecidableEq, Repr

end SensorStreamTracker

open SensorStreamTracker (SourceState)

structure SensorStreamTracker where
  config : SensorStreamTrackerConfig
  sources : KeyedTable SensorSource SourceState := KeyedTable.empty
  metrics : SensorStreamMetrics := {}

namespace SensorStreamTracker

/-- The constructor. -/
def make (config : SensorStreamTrackerConfig) : Except Exception SensorStreamTracker :=
  if config.maxSources = 0 then
    .error (.invalidArgument "sensor stream tracker source capacity must be greater than zero")
  else .ok { config }

/-- `observe` from the point where the packet's source was found: what becomes of its state and of
the metrics, and what is returned. -/
def SourceState.observe (state : SourceState) (metrics : SensorStreamMetrics)
    (sequenceNumber : BitVec 64) : SourceState × SensorStreamMetrics × SequenceObservation :=
  let forwardDistance := sequenceNumber - state.highestSequence
  if forwardDistance = 0 then
    (state,
      { metrics with duplicateObservations := metrics.duplicateObservations + 1 },
      { status := .kDuplicate, sequenceNumber })
  else if forwardDistance < kSequenceHalfRange then
    let recentSequences :=
      if forwardDistance ≥ kRecentSequenceCount then 1#64
      else state.recentSequences <<< forwardDistance.toNat ||| 1#64
    let state : SourceState := { highestSequence := sequenceNumber, recentSequences }
    let missingSamples := forwardDistance - 1
    if missingSamples = 0 then
      (state,
        { metrics with inOrderObservations := metrics.inOrderObservations + 1 },
        { status := .kInOrder, sequenceNumber })
    else
      (state,
        { metrics with
          gapObservations := metrics.gapObservations + 1
          missingSamplesInferred := saturatingAdd metrics.missingSamplesInferred missingSamples },
        { status := .kGap, sequenceNumber, missingSamples })
  else
    let backwardDistance := state.highestSequence - sequenceNumber
    let reordered (state : SourceState) : SourceState × SensorStreamMetrics × SequenceObservation :=
      (state,
        { metrics with reorderedObservations := metrics.reorderedObservations + 1 },
        { status := .kReordered, sequenceNumber })
    if backwardDistance < kRecentSequenceCount then
      let mask := 1#64 <<< backwardDistance.toNat
      if state.recentSequences &&& mask ≠ 0 then
        (state,
          { metrics with duplicateObservations := metrics.duplicateObservations + 1 },
          { status := .kDuplicate, sequenceNumber })
      else reordered { state with recentSequences := state.recentSequences ||| mask }
    else reordered state

def observe (tracker : SensorStreamTracker) (packet : ReceivedPacket) :
    SensorStreamTracker × SequenceObservation :=
  let metrics := { tracker.metrics with packetsObserved := tracker.metrics.packetsObserved + 1 }
  let source := identifySensorSource packet
  let sequenceNumber := packet.packet.header.sequenceNumber
  match tracker.sources.lookup source with
  | none =>
    if tracker.sources.size ≥ tracker.config.maxSources then
      ({ tracker with
          metrics := { metrics with untrackedObservations := metrics.untrackedObservations + 1 } },
        { status := .kUntracked, sequenceNumber })
    else
      ({ tracker with
          sources := tracker.sources.pushBack source
            { highestSequence := sequenceNumber, recentSequences := 1#64 }
          metrics := { metrics with
            streamsObserved := metrics.streamsObserved + 1
            firstObservations := metrics.firstObservations + 1 } },
        { status := .kFirst, sequenceNumber })
  | some state =>
    let (state, metrics, observation) := state.observe metrics sequenceNumber
    ({ tracker with sources := tracker.sources.modify source fun _ => state, metrics }, observation)

/-- The tracker after a run of packets. -/
def observeAll (tracker : SensorStreamTracker) (packets : List ReceivedPacket) :
    SensorStreamTracker :=
  packets.foldl (fun tracker packet => (tracker.observe packet).1) tracker

/-- What `observe` returned for each packet of the run. -/
def observeEach (tracker : SensorStreamTracker) : List ReceivedPacket → List SequenceObservation
  | [] => []
  | packet :: packets =>
    (tracker.observe packet).2 :: observeEach (tracker.observe packet).1 packets

end SensorStreamTracker

end Driveflow.Runtime
