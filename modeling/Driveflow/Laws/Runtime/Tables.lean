import Driveflow.Laws.Runtime.PacketSide
import Driveflow.Library.Transition

/-!
# The two tables agree

The tracker and the monitor each search and grow a table of their own for every packet, and each
bumps counters of its own: the tracker's wrap, the monitor's saturate. Both count the observations
that were returned. The metrics are their tally (`streamMetrics_runEvents`), and the counters of the
records add up to the same counts (`total_counter`, `total_missing`), since a call changes the
record of one source and no other (`recorded_apply`).
-/

namespace Driveflow.Runtime

open Library Net Protocol SourceHealthMonitor

/-! ## What was returned -/

/-- The observations of a log, in the order in which they were returned. -/
def observations (log : List LogEntry) : List SequenceObservation :=
  log.filterMap fun
    | .packet _ observation => some observation
    | .issue _ _ => none

/-- A packet adds its observation. -/
theorem observations_append_packet (log : List LogEntry) (packet : ReceivedPacket)
    (observation : SequenceObservation) :
    observations (log ++ [.packet packet observation]) = observations log ++ [observation] :=
  List.filterMap_append

/-- An issue adds no observation. -/
theorem observations_append_issue (log : List LogEntry) (packet : ReceivedPacket)
    (issue : SourceHealthIssue) :
    observations (log ++ [.issue packet issue]) = observations log :=
  List.filterMap_append.trans (List.append_nil _)

/-- One observation for each packet. -/
theorem length_observations (monitor : SourceHealthMonitor) (events : List HealthEvent) :
    (observations (monitor.runEvents events).2).length = (observedPackets events).length := by
  have hlog (log : List LogEntry) :
      (observations log).length = (observedPackets (log.map LogEntry.event)).length := by
    rw [observations, observedPackets, List.length_filterMap_eq_countP,
      List.length_filterMap_eq_countP, List.countP_map]
    refine List.countP_congr fun entry _ => ?_
    cases entry <;> rfl
  rw [hlog, map_event_runEvents]

/-- **The metrics tally the observations of the log.** -/
theorem streamMetrics_runEvents {config : SourceHealthMonitorConfig}
    {monitor : SourceHealthMonitor} (made : SourceHealthMonitor.make config = .ok monitor)
    (events : List HealthEvent) :
    (monitor.runEvents events).1.streamTracker.metrics =
      (observations (monitor.runEvents events).2).foldl SensorStreamMetrics.tally {} := by
  obtain ⟨_, rfl⟩ := make_eq_ok made
  induction events using List.reverseRecOn with
  | nil => rfl
  | append_singleton events event ih =>
    rw [runEvents_append_singleton, apply_entry]
    generalize SourceHealthMonitor.runEvents _ events = run at ih ⊢
    cases event with
    | packet packet =>
      dsimp only
      rw [observations_append_packet, List.foldl_append, ← ih]
      change (run.1.observePacket packet).1.streamTracker.metrics = _
      rw [(observePacket_streamTracker run.1 packet).1, observe_tally]
      rfl
    | issue packet issue =>
      dsimp only
      rw [observations_append_issue, ← ih]
      change (run.1.observeIssue packet issue).streamTracker.metrics = _
      unfold SourceHealthMonitor.observeIssue
      dsimp only
      split <;> rfl

/-! ## What one call does to the records -/

/-- The observation of a first packet. -/
def SequenceObservation.first (sequenceNumber : BitVec 64) : SequenceObservation :=
  { status := .kFirst, sequenceNumber }

/-- The observation of a packet that found no room. -/
def SequenceObservation.untracked (sequenceNumber : BitVec 64) : SequenceObservation :=
  { status := .kUntracked, sequenceNumber }

/-- How the records follow from those before a call, by what the call was logged as. -/
inductive Recorded (capacity : Nat) (records : KeyedTable SensorSource SourceState) :
    LogEntry → KeyedTable SensorSource SourceState → Prop where
  | known {packet observation state}
      (lookup : records.lookup (identifySensorSource packet) = some state)
      (tracked : observation.status ≠ .kUntracked) (later : observation.status ≠ .kFirst)
      (missing : observation.status ≠ .kGap → observation.missingSamples = 0) :
      Recorded capacity records (.packet packet observation)
        (records.modify (identifySensorSource packet) fun state =>
          state.recordPacket packet observation)
  | first {packet} (fresh : identifySensorSource packet ∉ records.keys)
      (room : records.size < capacity) :
      Recorded capacity records
        (.packet packet (.first packet.packet.header.sequenceNumber))
        (records.pushBack (identifySensorSource packet)
          (({} : SourceState).recordPacket packet (.first packet.packet.header.sequenceNumber)))
  | refused {packet} (unknown : identifySensorSource packet ∉ records.keys)
      (full : capacity ≤ records.size) :
      Recorded capacity records
        (.packet packet (.untracked packet.packet.header.sequenceNumber)) records
  | issue {packet issue state}
      (lookup : records.lookup (identifySensorSource packet) = some state) :
      Recorded capacity records (.issue packet issue)
        (records.modify (identifySensorSource packet) fun state => state.recordIssue packet issue)
  | ignored {packet issue} (unknown : identifySensorSource packet ∉ records.keys) :
      Recorded capacity records (.issue packet issue) records

/-- **One call changes the record of its own source, or none.** -/
theorem Mirrors.recorded {monitor : SourceHealthMonitor}
    {table : KeyedTable SensorSource SourceRecord} (h : Mirrors monitor table)
    (event : HealthEvent) :
    Recorded monitor.config.maxSources monitor.sources (monitor.apply event).2
      (monitor.apply event).1.sources := by
  rw [apply_entry]
  cases event with
  | packet packet =>
    have hobservation := h.observation packet
    have hhealth := h.lookup_health (identifySensorSource packet)
    have hsize : monitor.sources.size = table.size := by rw [h.health, KeyedTable.size_map]
    change Recorded _ _ _ (monitor.observePacket packet).1.sources
    rw [SourceHealthMonitor.observePacket]
    dsimp only
    cases hlookup : table.lookup (identifySensorSource packet) with
    | some record =>
      rw [hlookup] at hobservation hhealth
      obtain ⟨hlater, htracked, hmissing⟩ :=
        observe_status record.tracking {} packet.packet.header.sequenceNumber
      rw [hobservation, hhealth, if_neg (observation_tracked record packet)]
      exact .known hhealth htracked hlater hmissing
    | none =>
      rw [hlookup] at hobservation hhealth
      have hfresh := KeyedTable.lookup_eq_none_iff.mp hhealth
      rw [← hsize] at hobservation
      dsimp only at hobservation
      by_cases hroom : monitor.sources.size < monitor.config.maxSources
      · rw [if_pos hroom] at hobservation
        have htracked : SequenceStatus.kFirst ≠ .kUntracked := by decide
        rw [hobservation, hhealth, if_neg htracked]
        dsimp only [Option.map_none]
        rw [KeyedTable.modify_pushBack hfresh]
        exact .first hfresh hroom
      · rw [if_neg hroom] at hobservation
        rw [hobservation, if_pos rfl]
        exact .refused hfresh (Nat.le_of_not_lt hroom)
  | issue packet issue =>
    change Recorded _ _ _ (monitor.observeIssue packet issue).sources
    rw [SourceHealthMonitor.observeIssue]
    dsimp only
    cases hlookup : monitor.sources.lookup (identifySensorSource packet) with
    | some state => exact .issue hlookup
    | none => exact .ignored (KeyedTable.lookup_eq_none_iff.mp hlookup)

/-- **The run rule**: what holds of the records and the log of a fresh monitor, and what every call
preserves, holds after every run. -/
theorem runEvents_recorded {config : SourceHealthMonitorConfig} {monitor : SourceHealthMonitor}
    (made : SourceHealthMonitor.make config = .ok monitor)
    (holds : KeyedTable SensorSource SourceState → List LogEntry → Prop)
    (start : holds KeyedTable.empty [])
    (preserved : ∀ records log entry records', holds records log →
      Recorded config.maxSources records entry records' → holds records' (log ++ [entry]))
    (events : List HealthEvent) :
    holds (monitor.runEvents events).1.sources (monitor.runEvents events).2 := by
  induction events using List.reverseRecOn with
  | nil =>
    obtain ⟨_, rfl⟩ := make_eq_ok made
    exact start
  | append_singleton events event ih =>
    have hinvariant := runEvents_invariant made events
    have hrecorded := hinvariant.mirrors.recorded event
    rw [hinvariant.config_eq] at hrecorded
    rw [runEvents_append_singleton]
    exact preserved _ _ _ _ ih hrecorded

/-! ## Counters of records -/

/-- The counters of a record that packets bump. -/
structure PacketCounters where
  packetsReceived : BitVec 64
  gapObservations : BitVec 64
  duplicateObservations : BitVec 64
  reorderedObservations : BitVec 64
  missingSamplesInferred : BitVec 64

namespace PacketCounters

def ofState (state : SourceState) : PacketCounters :=
  { packetsReceived := state.packetsReceived
    gapObservations := state.gapObservations
    duplicateObservations := state.duplicateObservations
    reorderedObservations := state.reorderedObservations
    missingSamplesInferred := state.missingSamplesInferred }

/-- One packet more. -/
def receive (counters : PacketCounters) : PacketCounters :=
  { counters with packetsReceived := saturatingIncrement counters.packetsReceived }

/-- A packet of a status. -/
def judge (counters : PacketCounters) (observation : SequenceObservation) : PacketCounters :=
  match observation.status with
  | .kGap =>
    { counters with
      gapObservations := saturatingIncrement counters.gapObservations
      missingSamplesInferred :=
        saturatingAdd counters.missingSamplesInferred observation.missingSamples }
  | .kDuplicate =>
    { counters with duplicateObservations := saturatingIncrement counters.duplicateObservations }
  | .kReordered =>
    { counters with reorderedObservations := saturatingIncrement counters.reorderedObservations }
  | _ => counters

/-- A latency is no packet counter. -/
theorem ofState_recordLatency (state : SourceState) (packet : ReceivedPacket) :
    ofState (state.recordLatency packet).1 = ofState state := by
  unfold SourceState.recordLatency
  dsimp only
  split <;> rfl

/-- The packet counters see of an observation its status, not the issues of its packet. -/
theorem ofState_recordStatus (state : SourceState) (observation : SequenceObservation)
    (timestamp : BitVec 64) (anomalous : Bool) :
    ofState (state.recordStatus observation timestamp anomalous) =
      (ofState state).judge observation := by
  unfold SourceState.recordStatus judge
  dsimp only
  cases observation.status <;> cases anomalous <;> rfl

/-- **What a packet does to the counters.** -/
theorem ofState_recordPacket (state : SourceState) (packet : ReceivedPacket)
    (observation : SequenceObservation) :
    ofState (state.recordPacket packet observation) =
      (ofState state).receive.judge observation := by
  obtain ⟨received, hreceived, hrecord⟩ : ∃ received : SourceState,
      ofState received = (ofState state).receive ∧
      state.recordPacket packet observation =
        (received.recordLatency packet).1.recordStatus observation
          (stdMax packet.receiveTimestampNs state.lastReceiveTimestampNs)
          (received.recordLatency packet).2 := by
    refine ⟨_, ?_, rfl⟩
    split <;> rfl
  rw [hrecord, ofState_recordStatus, ofState_recordLatency, hreceived]

/-- An issue is no packet. -/
theorem ofState_recordIssue (state : SourceState) (packet : ReceivedPacket)
    (issue : SourceHealthIssue) : ofState (state.recordIssue packet issue) = ofState state := by
  cases issue <;> rfl

end PacketCounters

/-- The counter is bumped once for each observation of the kind. -/
structure CountsKind (counter : PacketCounters → BitVec 64) (kind : SequenceObservation → Bool) :
    Prop where
  fresh : counter (PacketCounters.ofState {}) = 0
  bumped : ∀ counters observation, observation.status ≠ .kUntracked →
    counter (counters.receive.judge observation) =
      if kind observation then saturatingIncrement (counter counters) else counter counters
  tracked : ∀ observation, observation.status = .kUntracked → kind observation = false

/-- `packets_received` counts every tracked packet. -/
theorem countsKind_packetsReceived :
    CountsKind PacketCounters.packetsReceived fun observation =>
      observation.status ≠ .kUntracked where
  fresh := rfl
  bumped counters observation tracked := by
    rw [if_pos (decide_eq_true tracked)]
    unfold PacketCounters.judge
    cases observation.status <;> rfl
  tracked observation h := decide_eq_false fun hne => hne h

/-- `gap_observations` counts the gaps. -/
theorem countsKind_gap :
    CountsKind PacketCounters.gapObservations fun observation => observation.status = .kGap where
  fresh := rfl
  bumped counters observation _ := by
    unfold PacketCounters.judge
    cases observation.status <;> rfl
  tracked observation h := by rw [h]; rfl

/-- `duplicate_observations` counts the duplicates. -/
theorem countsKind_duplicate :
    CountsKind PacketCounters.duplicateObservations fun observation =>
      observation.status = .kDuplicate where
  fresh := rfl
  bumped counters observation _ := by
    unfold PacketCounters.judge
    cases observation.status <;> rfl
  tracked observation h := by rw [h]; rfl

/-- `reordered_observations` counts the packets out of order. -/
theorem countsKind_reordered :
    CountsKind PacketCounters.reorderedObservations fun observation =>
      observation.status = .kReordered where
  fresh := rfl
  bumped counters observation _ := by
    unfold PacketCounters.judge
    cases observation.status <;> rfl
  tracked observation h := by rw [h]; rfl

/-! ## The sums -/

/-- The sum stops at the largest 64-bit value. -/
theorem toNat_saturatingAdd (value increment : BitVec 64) :
    (saturatingAdd value increment).toNat = min (value.toNat + increment.toNat) (2 ^ 64 - 1) := by
  have hvalue := value.isLt
  have hmaximum : (BitVec.allOnes 64).toNat = 2 ^ 64 - 1 := by rw [BitVec.toNat_allOnes]
  have hroom : (BitVec.allOnes 64 - value).toNat = 2 ^ 64 - 1 - value.toNat := by
    rw [BitVec.toNat_sub_of_le, hmaximum]
    rw [BitVec.le_def, hmaximum]
    omega
  rw [saturatingAdd]
  split
  next h =>
    rw [gt_iff_lt, BitVec.lt_def, hroom] at h
    rw [hmaximum]
    omega
  next h =>
    rw [gt_iff_lt, BitVec.lt_def, hroom] at h
    rw [BitVec.toNat_add]
    omega

/-- Only a gap misses samples, so every packet adds what its observation says. -/
theorem missing_recordPacket (state : SourceState) (packet : ReceivedPacket)
    {observation : SequenceObservation}
    (missing : observation.status ≠ .kGap → observation.missingSamples = 0) :
    (state.recordPacket packet observation).missingSamplesInferred.toNat =
      min (state.missingSamplesInferred.toNat + observation.missingSamples.toNat)
        (2 ^ 64 - 1) := by
  have hlt := state.missingSamplesInferred.isLt
  have hrecord := congrArg PacketCounters.missingSamplesInferred
    (PacketCounters.ofState_recordPacket state packet observation)
  change (state.recordPacket packet observation).missingSamplesInferred = _ at hrecord
  rw [hrecord]
  unfold PacketCounters.judge
  cases hstatus : observation.status with
  | kGap => exact toNat_saturatingAdd _ _
  | kFirst | kInOrder | kDuplicate | kReordered | kUntracked =>
    rw [missing (hstatus ▸ SequenceStatus.noConfusion)]
    exact (min_eq_left (Nat.le_of_lt_succ hlt)).symm

section Totals

variable {config : SourceHealthMonitorConfig} {monitor : SourceHealthMonitor}

/-- **The counters of the records add up to the observations of their kind.** None of them
saturates, since each is at most the number of packets. -/
theorem total_counter (made : SourceHealthMonitor.make config = .ok monitor)
    {counter : PacketCounters → BitVec 64} {kind : SequenceObservation → Bool}
    (counts : CountsKind counter kind) {events : List HealthEvent}
    (few : (observedPackets events).length < 2 ^ 64) :
    (monitor.runEvents events).1.sources.total
        (fun state => (counter (.ofState state)).toNat) =
      (observations (monitor.runEvents events).2).countP kind := by
  rw [← length_observations monitor] at few
  refine runEvents_recorded made
    (fun records log => (observations log).length < 2 ^ 64 →
      records.total (fun state => (counter (.ofState state)).toNat) =
        (observations log).countP kind)
    (fun _ => rfl) ?_ events few
  intro records log entry records' ih recorded
  cases recorded with
  | @known packet observation state lookup tracked =>
    rw [observations_append_packet, List.length_append, List.countP_append]
    intro hfew
    have htotal := ih (Nat.lt_of_succ_lt hfew)
    have hle := KeyedTable.le_total lookup fun state => (counter (.ofState state)).toNat
    have hmodify := KeyedTable.total_modify lookup
      (fun state => state.recordPacket packet observation)
      fun state => (counter (.ofState state)).toNat
    have hcount := List.countP_le_length (p := kind) (l := observations log)
    simp only [PacketCounters.ofState_recordPacket] at hmodify
    rw [counts.bumped _ _ tracked] at hmodify
    rw [List.countP_singleton]
    rw [List.length_singleton] at hfew
    cases hkind : kind observation with
    | true =>
      rw [hkind, if_pos rfl, toNat_saturatingIncrement] at hmodify
      rw [if_pos rfl]
      omega
    | false =>
      rw [hkind, if_neg Bool.false_ne_true] at hmodify
      rw [if_neg Bool.false_ne_true]
      omega
  | @first packet fresh =>
    rw [observations_append_packet, List.length_append, List.countP_append]
    intro hfew
    have htracked : (SequenceObservation.first packet.packet.header.sequenceNumber).status ≠
        .kUntracked := SequenceStatus.noConfusion
    rw [KeyedTable.total_pushBack fresh, ih (Nat.lt_of_succ_lt hfew),
      PacketCounters.ofState_recordPacket, counts.bumped _ _ htracked, counts.fresh,
      List.countP_singleton]
    split <;> rfl
  | refused =>
    rw [observations_append_packet, List.length_append, List.countP_append, List.countP_singleton,
      counts.tracked _ rfl]
    exact fun hfew => ih (Nat.lt_of_succ_lt hfew)
  | @issue packet issue state lookup =>
    rw [observations_append_issue]
    intro hfew
    have hmodify := KeyedTable.total_modify lookup (fun state => state.recordIssue packet issue)
      fun state => (counter (.ofState state)).toNat
    simp only [PacketCounters.ofState_recordIssue] at hmodify
    exact (Nat.add_right_cancel hmodify).trans (ih hfew)
  | ignored =>
    rw [observations_append_issue]
    exact ih

/-- **Both sums of missing samples are the same, capped.** A record saturates on its own, and then
so does the sum of the records. -/
theorem total_missing (made : SourceHealthMonitor.make config = .ok monitor)
    (events : List HealthEvent) :
    min ((monitor.runEvents events).1.sources.total
        (fun state => state.missingSamplesInferred.toNat)) (2 ^ 64 - 1) =
      min ((observations (monitor.runEvents events).2).map
        fun observation => observation.missingSamples.toNat).sum (2 ^ 64 - 1) := by
  refine runEvents_recorded made
    (fun records log => min (records.total fun state => state.missingSamplesInferred.toNat)
        (2 ^ 64 - 1) =
      min ((observations log).map fun observation => observation.missingSamples.toNat).sum
        (2 ^ 64 - 1))
    rfl ?_ events
  intro records log entry records' ih recorded
  cases recorded with
  | @known packet observation state lookup tracked later missing =>
    have hmodify := KeyedTable.total_modify lookup
      (fun state => state.recordPacket packet observation)
      fun state => state.missingSamplesInferred.toNat
    rw [missing_recordPacket state packet missing] at hmodify
    rw [observations_append_packet, List.map_append, List.sum_append, List.map_singleton,
      List.sum_singleton]
    have hle := KeyedTable.le_total lookup fun state => state.missingSamplesInferred.toNat
    omega
  | @first packet fresh =>
    have hmissing : (SequenceObservation.first packet.packet.header.sequenceNumber).status ≠ .kGap →
        (SequenceObservation.first packet.packet.header.sequenceNumber).missingSamples = 0 :=
      fun _ => rfl
    have hnone := missing_recordPacket {} packet hmissing
    rw [KeyedTable.total_pushBack fresh, hnone, observations_append_packet, List.map_append,
      List.sum_append]
    exact ih
  | refused =>
    rw [observations_append_packet, List.map_append, List.sum_append]
    exact ih
  | @issue packet issue state lookup =>
    have hmodify := KeyedTable.total_modify lookup (fun state => state.recordIssue packet issue)
      fun state => state.missingSamplesInferred.toNat
    have hsame : (state.recordIssue packet issue).missingSamplesInferred =
        state.missingSamplesInferred := by cases issue <;> rfl
    rw [hsame] at hmodify
    rw [observations_append_issue, Nat.add_right_cancel hmodify]
    exact ih
  | ignored =>
    rw [observations_append_issue]
    exact ih

/-- One record for each first observation. -/
theorem size_eq_countP (made : SourceHealthMonitor.make config = .ok monitor)
    (events : List HealthEvent) :
    (monitor.runEvents events).1.sources.size =
      (observations (monitor.runEvents events).2).countP fun observation =>
        observation.status = .kFirst := by
  refine runEvents_recorded made
    (fun records log => records.size =
      (observations log).countP fun observation => observation.status = .kFirst) rfl ?_ events
  intro records log entry records' ih recorded
  cases recorded with
  | known lookup tracked later =>
    rw [observations_append_packet, List.countP_append, List.countP_singleton,
      if_neg (fun h => later (of_decide_eq_true h)), ← KeyedTable.length_keys,
      KeyedTable.keys_modify, KeyedTable.length_keys]
    exact ih
  | @first packet fresh =>
    rw [observations_append_packet, List.countP_append, ← KeyedTable.length_keys,
      KeyedTable.keys_pushBack fresh, List.length_append, KeyedTable.length_keys, ih]
    rfl
  | refused =>
    rw [observations_append_packet, List.countP_append]
    exact ih
  | issue =>
    rw [observations_append_issue, ← KeyedTable.length_keys, KeyedTable.keys_modify,
      KeyedTable.length_keys]
    exact ih
  | ignored =>
    rw [observations_append_issue]
    exact ih

/-- Only a gap misses samples. -/
theorem missing_observations (made : SourceHealthMonitor.make config = .ok monitor)
    (events : List HealthEvent) :
    ∀ observation ∈ observations (monitor.runEvents events).2,
      observation.status ≠ .kGap → observation.missingSamples = 0 := by
  refine runEvents_recorded made
    (fun _ log => ∀ observation ∈ observations log,
      observation.status ≠ .kGap → observation.missingSamples = 0)
    (fun _ h => absurd h List.not_mem_nil) ?_ events
  intro records log entry records' ih recorded
  have hpacket {packet : ReceivedPacket} {observation : SequenceObservation}
      (missing : observation.status ≠ .kGap → observation.missingSamples = 0) :
      ∀ other ∈ observations (log ++ [.packet packet observation]),
        other.status ≠ .kGap → other.missingSamples = 0 := by
    rw [observations_append_packet]
    intro other hmem
    rcases List.mem_append.mp hmem with hmem | hmem
    · exact ih other hmem
    · rw [List.mem_singleton.mp hmem]
      exact missing
  cases recorded with
  | known lookup tracked later missing => exact hpacket missing
  | first => exact hpacket fun _ => rfl
  | refused => exact hpacket fun _ => rfl
  | issue | ignored =>
    rw [observations_append_issue]
    exact ih

/-! ## The metrics -/

/-- The counter of a status. -/
def SensorStreamMetrics.statusCounter (metrics : SensorStreamMetrics) :
    SequenceStatus → BitVec 64
  | .kFirst => metrics.firstObservations
  | .kInOrder => metrics.inOrderObservations
  | .kGap => metrics.gapObservations
  | .kDuplicate => metrics.duplicateObservations
  | .kReordered => metrics.reorderedObservations
  | .kUntracked => metrics.untrackedObservations

/-- An observation is tallied under its own status. -/
theorem statusCounter_tally (metrics : SensorStreamMetrics) (observation : SequenceObservation)
    (status : SequenceStatus) :
    (metrics.tally observation).statusCounter status = metrics.statusCounter status +
      BitVec.ofNat 64 (if decide (observation.status = status) then 1 else 0) := by
  unfold SensorStreamMetrics.tally
  cases observation.status <;> cases status <;>
    first
      | rfl
      | exact (BitVec.add_zero _).symm

/-- A first observation is a stream more. -/
theorem streamsObserved_tally (metrics : SensorStreamMetrics)
    (observation : SequenceObservation) :
    (metrics.tally observation).streamsObserved = metrics.streamsObserved +
      BitVec.ofNat 64 (if decide (observation.status = .kFirst) then 1 else 0) := by
  unfold SensorStreamMetrics.tally
  cases observation.status <;>
    first
      | rfl
      | exact (BitVec.add_zero _).symm

/-- Only a gap adds to the samples inferred missing. -/
theorem missing_tally (metrics : SensorStreamMetrics) (observation : SequenceObservation) :
    (metrics.tally observation).missingSamplesInferred =
      if observation.status = .kGap then
        saturatingAdd metrics.missingSamplesInferred observation.missingSamples
      else metrics.missingSamplesInferred := by
  unfold SensorStreamMetrics.tally
  cases observation.status with
  | kGap => exact (if_pos rfl).symm
  | kFirst | kInOrder | kDuplicate | kReordered | kUntracked => exact (if_neg nofun).symm

/-- A counter of fewer than `2 ^ 64` items does not wrap. -/
private theorem toNat_ofNat_countP {Item : Type} {items : List Item} {kind : Item → Bool}
    (few : items.length < 2 ^ 64) :
    ((0 : BitVec 64) + BitVec.ofNat 64 (items.countP kind)).toNat = items.countP kind := by
  change (0#64 + BitVec.ofNat 64 (items.countP kind)).toNat = _
  rw [BitVec.zero_add, BitVec.toNat_ofNat]
  exact Nat.mod_eq_of_lt (Nat.lt_of_le_of_lt List.countP_le_length few)

section Counters

variable {items : List SequenceObservation}

/-- Each status counter is the number of observations of its status. -/
theorem toNat_statusCounter (few : items.length < 2 ^ 64) (status : SequenceStatus) :
    ((items.foldl SensorStreamMetrics.tally {}).statusCounter status).toNat =
      items.countP fun observation => observation.status = status := by
  have hstart : ({} : SensorStreamMetrics).statusCounter status = 0 := by cases status <;> rfl
  rw [foldl_counter SensorStreamMetrics.tally (fun metrics => metrics.statusCounter status)
    (fun observation => decide (observation.status = status))
    (fun metrics observation => statusCounter_tally metrics observation status), hstart]
  exact toNat_ofNat_countP few

/-- The streams observed are the first observations. -/
theorem toNat_streamsObserved (few : items.length < 2 ^ 64) :
    (items.foldl SensorStreamMetrics.tally {}).streamsObserved.toNat =
      items.countP fun observation => observation.status = .kFirst := by
  have hstart : ({} : SensorStreamMetrics).streamsObserved = 0 := rfl
  rw [foldl_counter SensorStreamMetrics.tally SensorStreamMetrics.streamsObserved
    (fun observation => decide (observation.status = .kFirst)) streamsObserved_tally, hstart]
  exact toNat_ofNat_countP few

/-- The packets observed are all observations. -/
theorem toNat_packetsObserved (few : items.length < 2 ^ 64) :
    (items.foldl SensorStreamMetrics.tally {}).packetsObserved.toNat = items.length := by
  have hstart : ({} : SensorStreamMetrics).packetsObserved = 0 := rfl
  rw [foldl_counter SensorStreamMetrics.tally SensorStreamMetrics.packetsObserved (fun _ => true)
    tally_packetsObserved, hstart, toNat_ofNat_countP few, List.countP_true]

/-- The samples inferred missing are the sum of those of the observations, up to the largest
value. -/
theorem toNat_missingSamplesInferred (missing : ∀ observation ∈ items,
      observation.status ≠ .kGap → observation.missingSamples = 0) :
    (items.foldl SensorStreamMetrics.tally {}).missingSamplesInferred.toNat =
      min (items.map fun observation => observation.missingSamples.toNat).sum (2 ^ 64 - 1) := by
  induction items using List.reverseRecOn with
  | nil => rfl
  | append_singleton items observation ih =>
    have hitems := ih fun other hmem => missing other (List.mem_append_left _ hmem)
    have hlast := missing observation (List.mem_append_right _ List.mem_cons_self)
    rw [List.foldl_append, List.map_append, List.sum_append, List.map_singleton,
      List.sum_singleton]
    change (SensorStreamMetrics.tally _ observation).missingSamplesInferred.toNat = _
    rw [missing_tally]
    split
    next => rw [toNat_saturatingAdd, hitems]; omega
    next hother =>
      rw [hlast hother]
      exact hitems

/-- Every observation has one status. -/
theorem length_eq_statuses (items : List SequenceObservation) :
    let count (status : SequenceStatus) : Nat :=
      items.countP fun observation => observation.status = status
    items.length = count .kFirst + count .kInOrder + count .kGap + count .kDuplicate +
      count .kReordered + count .kUntracked := by
  induction items with
  | nil => rfl
  | cons observation items ih =>
    dsimp only at ih ⊢
    simp only [List.countP_cons, List.length_cons]
    cases observation.status <;> simp only [decide_true, reduceCtorEq, decide_false,
      if_true, Bool.false_eq_true, if_false] <;> omega

/-- A packet is untracked or received. -/
theorem length_eq_tracked (items : List SequenceObservation) :
    items.length = (items.countP fun observation => observation.status = .kUntracked) +
      items.countP fun observation => observation.status ≠ .kUntracked := by
  rw [List.length_eq_countP_add_countP fun observation =>
    decide (observation.status = .kUntracked)]
  refine congrArg _ (List.countP_congr fun observation _ => ?_)
  cases observation.status <;> decide

end Counters

end Totals

/-! ## Agreement -/

/-- **The tables and counters of the tracker and of the monitor agree**, in every reachable state
that has seen fewer than `2 ^ 64` packets. -/
theorem tables_agree (config : SourceHealthMonitorConfig) (monitor : SourceHealthMonitor)
    (made : SourceHealthMonitor.make config = .ok monitor) (events : List HealthEvent)
    (few : (observedPackets events).length < 2 ^ 64) :
    let run := monitor.runEvents events
    let tracker := run.1.streamTracker
    let metrics := tracker.metrics
    let records := run.1.sources
    let missing := ((observations run.2).map fun observation =>
      observation.missingSamples.toNat).sum
    (records.keys = tracker.sources.keys ∧ records.keys.Nodup ∧
        records.size ≤ config.maxSources) ∧
      (metrics.streamsObserved.toNat = records.size ∧
        metrics.firstObservations.toNat = records.size) ∧
      metrics.packetsObserved.toNat =
        metrics.firstObservations.toNat + metrics.inOrderObservations.toNat +
          metrics.gapObservations.toNat + metrics.duplicateObservations.toNat +
          metrics.reorderedObservations.toNat + metrics.untrackedObservations.toNat ∧
      (metrics.gapObservations.toNat =
          records.total (fun state => state.gapObservations.toNat) ∧
        metrics.duplicateObservations.toNat =
          records.total (fun state => state.duplicateObservations.toNat) ∧
        metrics.reorderedObservations.toNat =
          records.total (fun state => state.reorderedObservations.toNat)) ∧
      metrics.packetsObserved.toNat - metrics.untrackedObservations.toNat =
        records.total (fun state => state.packetsReceived.toNat) ∧
      (metrics.missingSamplesInferred.toNat = min missing (2 ^ 64 - 1) ∧
        min (records.total fun state => state.missingSamplesInferred.toNat) (2 ^ 64 - 1) =
          min missing (2 ^ 64 - 1)) := by
  intro run tracker metrics records missing
  have hinvariant := runEvents_invariant made events
  have hmetrics : metrics = (observations run.2).foldl SensorStreamMetrics.tally {} :=
    streamMetrics_runEvents made events
  have hfew : (observations run.2).length < 2 ^ 64 := by
    rw [length_observations]
    exact few
  have hstatus (status : SequenceStatus) :
      (metrics.statusCounter status).toNat =
        (observations run.2).countP fun observation => observation.status = status := by
    rw [hmetrics]
    exact toNat_statusCounter hfew status
  have hpackets : metrics.packetsObserved.toNat = (observations run.2).length := by
    rw [hmetrics]
    exact toNat_packetsObserved hfew
  have hsize : records.size = _ := size_eq_countP made events
  have hreceived : records.total (fun state => state.packetsReceived.toNat) = _ :=
    total_counter made countsKind_packetsReceived few
  refine ⟨⟨?_, records.distinct, ?_⟩, ⟨?_, ?_⟩, ?_, ⟨?_, ?_, ?_⟩, ?_, ?_,
    total_missing made events⟩
  · change run.1.sources.keys = run.1.streamTracker.sources.keys
    rw [hinvariant.mirrors.health, hinvariant.mirrors.tracking, KeyedTable.keys_map,
      KeyedTable.keys_map]
  · -- the table is a bounded machine's
    have hkeys := (monitorMachine config).keys_run events
    change run.1.sources.size ≤ config.maxSources
    rw [hinvariant.mirrors.health, KeyedTable.size_map, ← KeyedTable.length_keys, hkeys]
    exact List.length_take_le _ _
  · rw [hmetrics, toNat_streamsObserved hfew, hsize]
  · exact (hstatus .kFirst).trans hsize.symm
  · have hfirst : metrics.firstObservations.toNat = _ := hstatus .kFirst
    have hinOrder : metrics.inOrderObservations.toNat = _ := hstatus .kInOrder
    have hgap : metrics.gapObservations.toNat = _ := hstatus .kGap
    have hduplicate : metrics.duplicateObservations.toNat = _ := hstatus .kDuplicate
    have hreordered : metrics.reorderedObservations.toNat = _ := hstatus .kReordered
    have huntracked : metrics.untrackedObservations.toNat = _ := hstatus .kUntracked
    rw [hpackets, hfirst, hinOrder, hgap, hduplicate, hreordered, huntracked]
    exact length_eq_statuses _
  · exact (hstatus .kGap).trans (total_counter made countsKind_gap few).symm
  · exact (hstatus .kDuplicate).trans (total_counter made countsKind_duplicate few).symm
  · exact (hstatus .kReordered).trans (total_counter made countsKind_reordered few).symm
  · have huntracked : metrics.untrackedObservations.toNat = _ := hstatus .kUntracked
    rw [hreceived, hpackets, huntracked, length_eq_tracked (observations run.2)]
    exact Nat.add_sub_cancel_left _ _
  · rw [hmetrics]
    exact toNat_missingSamplesInferred (missing_observations made events)

/-- One source admitted, one refused: a gap of three, a duplicate, and one packet untracked. -/
theorem tables_agree_full :
    let monitor : SourceHealthMonitor :=
      { config := { maxSources := 1 }, streamTracker := { config := { maxSources := 1 } } }
    let other : ReceivedPacket := { numbered 5 with source := { port := 9 } }
    let run := monitor.runEvents
      [.packet (numbered 10), .packet (numbered 14), .packet other, .packet (numbered 14)]
    let metrics := run.1.streamTracker.metrics
    run.1.sources.keys = run.1.streamTracker.sources.keys ∧ metrics.streamsObserved.toNat = 1 ∧
      metrics.gapObservations.toNat =
        run.1.sources.total (fun state => state.gapObservations.toNat) ∧
      metrics.packetsObserved.toNat - metrics.untrackedObservations.toNat =
        run.1.sources.total (fun state => state.packetsReceived.toNat) ∧
      metrics.missingSamplesInferred.toNat = 3 := by
  intro monitor other run metrics
  obtain ⟨⟨hkeys, _, _⟩, ⟨hstreams, _⟩, _, ⟨hgap, _⟩, hreceived, hmissing, _⟩ :=
    tables_agree { maxSources := 1 } monitor rfl
      [.packet (numbered 10), .packet (numbered 14), .packet other, .packet (numbered 14)]
      (by decide)
  refine ⟨hkeys, hstreams.trans ?_, hgap, hreceived, hmissing.trans ?_⟩ <;> decide

end Driveflow.Runtime
