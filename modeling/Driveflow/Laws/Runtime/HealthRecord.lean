import Driveflow.Laws.Runtime.Tables

/-!
# The health record

A packet, a latency and an issue each write a part of a record. `Consistent` is what holds of the
parts together: a packet keeps it, and so does an issue about a packet that the record has already
seen, however old that packet is. So every record of a reachable monitor is consistent
(`consistent_of_reachable`).
-/

namespace Driveflow.Runtime

open Library Net Protocol SourceHealthMonitor

/-! ## What a packet writes -/

/-- The packet was received before it was sent. -/
def Anomalous (packet : ReceivedPacket) : Prop :=
  packet.packet.header.sourceTimestampNs > packet.receiveTimestampNs

instance (packet : ReceivedPacket) : Decidable (Anomalous packet) :=
  inferInstanceAs (Decidable (_ > _))

/-- The fields that the first packet and the latencies write. -/
structure Latencies where
  firstReceiveTimestampNs : BitVec 64
  latestLatencyNs : BitVec 64
  maximumLatencyNs : BitVec 64
  timestampAnomalies : BitVec 64

namespace Latencies

def ofState (state : SourceState) : Latencies :=
  { firstReceiveTimestampNs := state.firstReceiveTimestampNs
    latestLatencyNs := state.latestLatencyNs
    maximumLatencyNs := state.maximumLatencyNs
    timestampAnomalies := state.timestampAnomalies }

/-- The first packet opens the record. -/
def receive (latencies : Latencies) (packetsReceived timestamp : BitVec 64) : Latencies :=
  if packetsReceived = 0 then { latencies with firstReceiveTimestampNs := timestamp }
  else latencies

/-- A packet is measured, or it is an anomaly. -/
def measure (latencies : Latencies) (packet : ReceivedPacket) : Latencies :=
  if Anomalous packet then
    { latencies with
      latestLatencyNs := 0
      timestampAnomalies := saturatingIncrement latencies.timestampAnomalies }
  else
    let latestLatencyNs := packet.receiveTimestampNs - packet.packet.header.sourceTimestampNs
    { latencies with
      latestLatencyNs, maximumLatencyNs := stdMax latencies.maximumLatencyNs latestLatencyNs }

/-- Recording a latency is the measurement. -/
theorem ofState_recordLatency (state : SourceState) (packet : ReceivedPacket) :
    ofState (state.recordLatency packet).1 = (ofState state).measure packet := by
  by_cases h : packet.packet.header.sourceTimestampNs > packet.receiveTimestampNs
  · have hanomalous : Anomalous packet := h
    rw [SourceState.recordLatency, if_pos h, measure, if_pos hanomalous]
    rfl
  · have hmeasured : ¬ Anomalous packet := h
    rw [SourceState.recordLatency, if_neg h, measure, if_neg hmeasured]
    rfl

/-- The status of an observation is no part of the latencies. -/
theorem ofState_recordStatus (state : SourceState) (observation : SequenceObservation)
    (timestamp : BitVec 64) (anomalous : Bool) :
    ofState (state.recordStatus observation timestamp anomalous) = ofState state := by
  unfold SourceState.recordStatus
  dsimp only
  cases observation.status <;> cases anomalous <;> rfl

/-- A packet is received at the running maximum, and then measured. -/
theorem ofState_recordPacket (state : SourceState) (packet : ReceivedPacket)
    (observation : SequenceObservation) :
    ofState (state.recordPacket packet observation) =
      ((ofState state).receive state.packetsReceived
        (stdMax packet.receiveTimestampNs state.lastReceiveTimestampNs)).measure packet := by
  obtain ⟨received, hreceived, hrecord⟩ : ∃ received : SourceState,
      ofState received = (ofState state).receive state.packetsReceived
        (stdMax packet.receiveTimestampNs state.lastReceiveTimestampNs) ∧
      state.recordPacket packet observation =
        (received.recordLatency packet).1.recordStatus observation
          (stdMax packet.receiveTimestampNs state.lastReceiveTimestampNs)
          (received.recordLatency packet).2 := by
    refine ⟨_, ?_, rfl⟩
    unfold receive
    split <;> rfl
  rw [hrecord, ofState_recordStatus, ofState_recordLatency, hreceived]

end Latencies

section RecordPacket

variable (state : SourceState) (packet : ReceivedPacket) (observation : SequenceObservation)

/-- A packet received before it was sent is one more anomaly. -/
theorem anomalies_recordPacket :
    (state.recordPacket packet observation).timestampAnomalies =
      if Anomalous packet then saturatingIncrement state.timestampAnomalies
      else state.timestampAnomalies := by
  have hlatencies := congrArg Latencies.timestampAnomalies
    (Latencies.ofState_recordPacket state packet observation)
  refine hlatencies.trans ?_
  have hreceive (timestamp : BitVec 64) : ((Latencies.ofState state).receive state.packetsReceived
      timestamp).timestampAnomalies = state.timestampAnomalies := by
    unfold Latencies.receive
    split <;> rfl
  by_cases hanomaly : Anomalous packet
  · rw [Latencies.measure, if_pos hanomaly, if_pos hanomaly]
    exact congrArg saturatingIncrement (hreceive _)
  · rw [Latencies.measure, if_neg hanomaly, if_neg hanomaly]
    exact hreceive _

/-- The first packet alone sets the first receive time. -/
theorem firstReceive_recordPacket :
    (state.recordPacket packet observation).firstReceiveTimestampNs =
      if state.packetsReceived = 0 then
        stdMax packet.receiveTimestampNs state.lastReceiveTimestampNs
      else state.firstReceiveTimestampNs := by
  have hlatencies := congrArg Latencies.firstReceiveTimestampNs
    (Latencies.ofState_recordPacket state packet observation)
  refine hlatencies.trans ?_
  have hmeasure (latencies : Latencies) :
      (latencies.measure packet).firstReceiveTimestampNs = latencies.firstReceiveTimestampNs := by
    unfold Latencies.measure
    split <;> rfl
  rw [hmeasure, Latencies.receive]
  split <;> rfl

/-- The latest latency is no larger than the maximum: an anomaly has none. -/
theorem latency_recordPacket :
    (state.recordPacket packet observation).latestLatencyNs.toNat ≤
      (state.recordPacket packet observation).maximumLatencyNs.toNat := by
  have hlatencies := Latencies.ofState_recordPacket state packet observation
  have hlatest := congrArg Latencies.latestLatencyNs hlatencies
  have hmaximum := congrArg Latencies.maximumLatencyNs hlatencies
  change (state.recordPacket packet observation).latestLatencyNs = _ at hlatest
  change (state.recordPacket packet observation).maximumLatencyNs = _ at hmaximum
  rw [hlatest, hmaximum]
  unfold Latencies.measure
  split
  · exact Nat.zero_le _
  · dsimp only
    rw [toNat_stdMax]
    exact Nat.le_max_right _ _

/-- What a packet does to the three counters of observations. -/
theorem observations_recordPacket (tracked : observation.status ≠ .kUntracked) :
    (state.recordPacket packet observation).gapObservations =
        (if observation.status = .kGap then saturatingIncrement state.gapObservations
        else state.gapObservations) ∧
      (state.recordPacket packet observation).duplicateObservations =
        (if observation.status = .kDuplicate then saturatingIncrement state.duplicateObservations
        else state.duplicateObservations) ∧
      (state.recordPacket packet observation).reorderedObservations =
        if observation.status = .kReordered then saturatingIncrement state.reorderedObservations
        else state.reorderedObservations := by
  have hcounters := PacketCounters.ofState_recordPacket state packet observation
  have hgap := countsKind_gap.bumped (PacketCounters.ofState state) observation tracked
  have hduplicate := countsKind_duplicate.bumped (PacketCounters.ofState state) observation tracked
  have hreordered := countsKind_reordered.bumped (PacketCounters.ofState state) observation tracked
  rw [← hcounters] at hgap hduplicate hreordered
  simp only [decide_eq_true_eq] at hgap hduplicate hreordered
  exact ⟨hgap, hduplicate, hreordered⟩

end RecordPacket

/-! ## The invariant -/

/-- The clauses that an empty record meets too. -/
structure Sound (state : SourceState) : Prop where
  receive : state.firstReceiveTimestampNs.toNat ≤ state.lastReceiveTimestampNs.toNat
  lastIssue : state.lastIssueTimestampNs.toNat ≤ state.lastReceiveTimestampNs.toNat
  latency : state.latestLatencyNs.toNat ≤ state.maximumLatencyNs.toNat
  issueSeen_iff : state.issueSeen = true ↔
    0 < state.timestampAnomalies.toNat ∨ 0 < state.gapObservations.toNat ∨
      0 < state.duplicateObservations.toNat ∨ 0 < state.reorderedObservations.toNat ∨
      0 < state.payloadsRejected.toNat ∨ 0 < state.packetsDroppedQueueFull.toNat
  healthy : state.issueSeen = false → state.healthyPacketsSinceIssue = state.packetsReceived
  healthy_le : state.healthyPacketsSinceIssue.toNat ≤ state.packetsReceived.toNat
  missing : state.gapObservations.toNat ≤ state.missingSamplesInferred.toNat

/-- **The representation invariant of a health record.** The observations are fewer than the packets
as long as the packets can be counted. -/
structure Consistent (state : SourceState) : Prop extends Sound state where
  received : 1 ≤ state.packetsReceived.toNat
  observations : state.packetsReceived.toNat < 2 ^ 64 - 1 →
    state.gapObservations.toNat + state.duplicateObservations.toNat +
      state.reorderedObservations.toNat < state.packetsReceived.toNat

/-- An empty record meets the clauses. -/
theorem sound_empty : Sound {} := by
  constructor <;> decide

/-- What a packet does to the rest of a record, by whether it is an issue. -/
theorem vitals_recordPacket {state : SourceState} {packet : ReceivedPacket}
    {observation : SequenceObservation} (tracked : observation.status ≠ .kUntracked) :
    let timestamp := stdMax packet.receiveTimestampNs state.lastReceiveTimestampNs
    let next := state.recordPacket packet observation
    next.lastReceiveTimestampNs = timestamp ∧
      next.packetsReceived = saturatingIncrement state.packetsReceived ∧
      if (LogEntry.packet packet observation).isIssue = true then
        next.issueSeen = true ∧ next.healthyPacketsSinceIssue = 0 ∧
          next.lastIssueTimestampNs = stdMax state.lastIssueTimestampNs timestamp
      else
        next.issueSeen = state.issueSeen ∧
          next.healthyPacketsSinceIssue = saturatingIncrement state.healthyPacketsSinceIssue ∧
          next.lastIssueTimestampNs = state.lastIssueTimestampNs := by
  intro timestamp next
  have hspec := recordPacket_spec state packet observation tracked
  dsimp only at hspec
  by_cases hissue : (LogEntry.packet packet observation).isIssue = true
  · rw [if_pos hissue] at hspec
    rw [if_pos hissue]
    exact ⟨congrArg Vitals.lastReceiveTimestampNs hspec, congrArg Vitals.packetsReceived hspec,
      congrArg Vitals.issueSeen hspec, congrArg Vitals.healthyPacketsSinceIssue hspec,
      congrArg Vitals.lastIssueTimestampNs hspec⟩
  · rw [if_neg hissue] at hspec
    rw [if_neg hissue]
    exact ⟨congrArg Vitals.lastReceiveTimestampNs hspec, congrArg Vitals.packetsReceived hspec,
      congrArg Vitals.issueSeen hspec, congrArg Vitals.healthyPacketsSinceIssue hspec,
      congrArg Vitals.lastIssueTimestampNs hspec⟩

/-- An issue among the packets is an anomaly or one of the three kinds of observation. -/
theorem isIssue_packet {packet : ReceivedPacket} {observation : SequenceObservation} :
    (LogEntry.packet packet observation).isIssue = true ↔
      Anomalous packet ∨ observation.status = .kGap ∨ observation.status = .kDuplicate ∨
        observation.status = .kReordered := by
  rw [LogEntry.isIssue, decide_eq_true_eq]
  have hanomalous : packet.packet.header.sourceTimestampNs.toNat > packet.receiveTimestampNs.toNat ↔
      Anomalous packet := BitVec.lt_def.symm
  rw [hanomalous]
  tauto

section Counters

variable {state : SourceState} {packet : ReceivedPacket} {observation : SequenceObservation}

/-- The counters of issues, after a packet, are positive where they were or where the packet is such
an issue. -/
theorem issueCounters_recordPacket (tracked : observation.status ≠ .kUntracked) :
    let next := state.recordPacket packet observation
    (0 < next.timestampAnomalies.toNat ↔ 0 < state.timestampAnomalies.toNat ∨ Anomalous packet) ∧
      (0 < next.gapObservations.toNat ↔
        0 < state.gapObservations.toNat ∨ observation.status = .kGap) ∧
      (0 < next.duplicateObservations.toNat ↔
        0 < state.duplicateObservations.toNat ∨ observation.status = .kDuplicate) ∧
      (0 < next.reorderedObservations.toNat ↔
        0 < state.reorderedObservations.toNat ∨ observation.status = .kReordered) ∧
      next.payloadsRejected = state.payloadsRejected ∧
      next.packetsDroppedQueueFull = state.packetsDroppedQueueFull := by
  intro next
  obtain ⟨hgap, hduplicate, hreordered⟩ := observations_recordPacket state packet observation tracked
  have hbumped (condition : Prop) [Decidable condition] (counter : BitVec 64) :
      0 < (if condition then saturatingIncrement counter else counter).toNat ↔
        0 < counter.toNat ∨ condition := by
    split
    next h =>
      rw [toNat_saturatingIncrement]
      exact ⟨fun _ => .inr h, fun _ => by omega⟩
    next h => exact (or_iff_left h).symm
  refine ⟨?_, ?_, ?_, ?_, issueCounter_recordPacket state packet observation .kPayloadRejected,
    issueCounter_recordPacket state packet observation .kQueueDropped⟩
  · change 0 < (state.recordPacket packet observation).timestampAnomalies.toNat ↔ _
    rw [anomalies_recordPacket, hbumped]
  · change 0 < (state.recordPacket packet observation).gapObservations.toNat ↔ _
    rw [hgap, hbumped]
  · change 0 < (state.recordPacket packet observation).duplicateObservations.toNat ↔ _
    rw [hduplicate, hbumped]
  · change 0 < (state.recordPacket packet observation).reorderedObservations.toNat ↔ _
    rw [hreordered, hbumped]

/-- A packet is counted by one of the three observation counters at most. -/
theorem toNat_observations_recordPacket (tracked : observation.status ≠ .kUntracked) :
    let next := state.recordPacket packet observation
    next.gapObservations.toNat + next.duplicateObservations.toNat +
        next.reorderedObservations.toNat ≤
      state.gapObservations.toNat + state.duplicateObservations.toNat +
        state.reorderedObservations.toNat + if observation.status = .kFirst then 0 else 1 := by
  intro next
  obtain ⟨hgap, hduplicate, hreordered⟩ := observations_recordPacket state packet observation tracked
  change (state.recordPacket packet observation).gapObservations.toNat +
    (state.recordPacket packet observation).duplicateObservations.toNat +
    (state.recordPacket packet observation).reorderedObservations.toNat ≤ _
  rw [hgap, hduplicate, hreordered]
  have hbump (counter : BitVec 64) : (saturatingIncrement counter).toNat ≤ counter.toNat + 1 := by
    rw [toNat_saturatingIncrement]
    exact Nat.min_le_left _ _
  have hgap := hbump state.gapObservations
  have hduplicate := hbump state.duplicateObservations
  have hreordered := hbump state.reorderedObservations
  cases hstatus : observation.status with
  | kUntracked => exact absurd hstatus tracked
  | kFirst | kInOrder | kGap | kDuplicate | kReordered =>
    simp only [reduceCtorEq, if_true, if_false]
    omega

end Counters

/-! ## The mutators keep it -/

/-- Samples are missing where there is a gap, and nowhere else. -/
def Gapped (observation : SequenceObservation) : Prop :=
  observation.status = .kGap ↔ observation.missingSamples ≠ 0

/-- What a record observes has missing samples exactly at a gap. -/
theorem gapped_observation (record : SourceRecord) (packet : ReceivedPacket) :
    Gapped (record.observation packet) := by
  unfold Gapped SourceRecord.observation SensorStreamTracker.SourceState.observe
  dsimp only
  split
  · exact ⟨nofun, fun h => absurd rfl h⟩
  · split
    · split
      · exact ⟨nofun, fun h => absurd rfl h⟩
      next hmissing => exact ⟨fun _ => hmissing, fun _ => rfl⟩
    · split
      · split <;> exact ⟨nofun, fun h => absurd rfl h⟩
      · exact ⟨nofun, fun h => absurd rfl h⟩

section Mutators

variable {state : SourceState} {packet : ReceivedPacket} {observation : SequenceObservation}

/-- An issue is seen where one of the counters of issues is positive. -/
theorem Sound.issueSeen_recordPacket (h : Sound state) (tracked : observation.status ≠ .kUntracked) :
    let next := state.recordPacket packet observation
    next.issueSeen = true ↔
      0 < next.timestampAnomalies.toNat ∨ 0 < next.gapObservations.toNat ∨
        0 < next.duplicateObservations.toNat ∨ 0 < next.reorderedObservations.toNat ∨
        0 < next.payloadsRejected.toNat ∨ 0 < next.packetsDroppedQueueFull.toNat := by
  intro next
  obtain ⟨_, _, hvitals⟩ := @vitals_recordPacket state packet observation tracked
  obtain ⟨hanomalies, hgap, hduplicate, hreordered, hrejected, hdropped⟩ :=
    @issueCounters_recordPacket state packet observation tracked
  rw [hanomalies, hgap, hduplicate, hreordered, hrejected, hdropped]
  split at hvitals
  next hissue =>
    refine iff_of_true hvitals.1 ?_
    rcases isIssue_packet.mp hissue with hanomaly | hkind | hkind | hkind
    · exact .inl (.inr hanomaly)
    · exact .inr (.inl (.inr hkind))
    · exact .inr (.inr (.inl (.inr hkind)))
    · exact .inr (.inr (.inr (.inl (.inr hkind))))
  next hnormal =>
    obtain ⟨hmeasured, hno⟩ := not_or.mp (mt isIssue_packet.mpr hnormal)
    obtain ⟨hnoGap, hno⟩ := not_or.mp hno
    obtain ⟨hnoDuplicate, hnoReordered⟩ := not_or.mp hno
    rw [hvitals.1, or_iff_left hmeasured, or_iff_left hnoGap, or_iff_left hnoDuplicate,
      or_iff_left hnoReordered]
    exact h.issueSeen_iff

/-- A gap is at least one missing sample. -/
theorem Sound.gaps_recordPacket (h : Sound state) (tracked : observation.status ≠ .kUntracked)
    (gapped : Gapped observation) :
    (state.recordPacket packet observation).gapObservations.toNat ≤
      (state.recordPacket packet observation).missingSamplesInferred.toNat := by
  have hmissing := missing_recordPacket state packet
    (fun hother => not_not.mp fun hsome => hother (gapped.mpr hsome))
  have hbound := (state.recordPacket packet observation).gapObservations.isLt
  have hle := h.missing
  rw [hmissing]
  rw [(observations_recordPacket state packet observation tracked).1] at hbound ⊢
  split
  next hkind =>
    have hpositive : observation.missingSamples.toNat ≠ 0 :=
      fun hzero => gapped.mp hkind (BitVec.eq_of_toNat_eq hzero)
    rw [toNat_saturatingIncrement]
    omega
  next hother =>
    rw [if_neg hother] at hbound
    omega

/-- A tracked packet keeps the clauses, whether the record was empty or not. -/
theorem Sound.recordPacket (h : Sound state) (tracked : observation.status ≠ .kUntracked)
    (gapped : Gapped observation) : Sound (state.recordPacket packet observation) := by
  obtain ⟨hlast, hreceived, hvitals⟩ :=
    @vitals_recordPacket state packet observation tracked
  have htimestamp : state.lastReceiveTimestampNs.toNat ≤
      (stdMax packet.receiveTimestampNs state.lastReceiveTimestampNs).toNat := by
    rw [toNat_stdMax]
    exact Nat.le_max_right _ _
  refine ⟨?_, ?_, latency_recordPacket state packet observation, h.issueSeen_recordPacket tracked,
    ?_, ?_, h.gaps_recordPacket tracked gapped⟩
  · rw [firstReceive_recordPacket, hlast]
    split
    · exact Nat.le_refl _
    · exact h.receive.trans htimestamp
  · rw [hlast]
    split at hvitals
    · rw [hvitals.2.2, toNat_stdMax]
      exact Nat.max_le.mpr ⟨h.lastIssue.trans htimestamp, Nat.le_refl _⟩
    · rw [hvitals.2.2]
      exact h.lastIssue.trans htimestamp
  · intro hunseen
    split at hvitals
    · exact absurd (hunseen.symm.trans hvitals.1) Bool.false_ne_true
    · rw [hvitals.2.1, hreceived, h.healthy (hvitals.1.symm.trans hunseen)]
  · rw [hreceived, toNat_saturatingIncrement]
    have hle := h.healthy_le
    split at hvitals
    · rw [hvitals.2.1]
      exact Nat.zero_le _
    · rw [hvitals.2.1, toNat_saturatingIncrement]
      omega

/-- A tracked packet keeps the invariant. -/
theorem Consistent.recordPacket (h : Consistent state) (tracked : observation.status ≠ .kUntracked)
    (gapped : Gapped observation) : Consistent (state.recordPacket packet observation) := by
  obtain ⟨_, hreceived, _⟩ := @vitals_recordPacket state packet observation tracked
  have hcount := @toNat_observations_recordPacket state packet observation tracked
  have hbefore := h.observations
  have hone : (if observation.status = .kFirst then 0 else 1) ≤ 1 := by
    split <;> decide
  refine { toSound := h.toSound.recordPacket tracked gapped, received := ?_, observations := ?_ }
  · rw [hreceived, toNat_saturatingIncrement]
    omega
  · rw [hreceived, toNat_saturatingIncrement]
    dsimp only at hcount
    intro hcounted
    have hbefore := hbefore (by omega)
    omega

/-- The first packet opens a consistent record. -/
theorem consistent_first (first : observation.status = .kFirst) (gapped : Gapped observation) :
    Consistent (({} : SourceState).recordPacket packet observation) := by
  have htracked : observation.status ≠ .kUntracked := by
    rw [first]
    exact nofun
  obtain ⟨_, hreceived, _⟩ := @vitals_recordPacket {} packet observation htracked
  have hcount := @toNat_observations_recordPacket {} packet observation htracked
  dsimp only at hcount
  rw [if_pos first] at hcount
  have hone : (saturatingIncrement ({} : SourceState).packetsReceived).toNat = 1 := by decide
  refine { toSound := sound_empty.recordPacket htracked gapped, received := ?_, observations := ?_ }
  · rw [hreceived, hone]
  · rw [hreceived, hone]
    intro _
    exact Nat.lt_of_le_of_lt hcount (by decide)

/-- An issue about a packet that is no newer than the record. -/
theorem Consistent.recordIssue (h : Consistent state) (issue : SourceHealthIssue)
    (seen : packet.receiveTimestampNs.toNat ≤ state.lastReceiveTimestampNs.toNat) :
    Consistent (state.recordIssue packet issue) := by
  have hlastIssue : (stdMax state.lastIssueTimestampNs packet.receiveTimestampNs).toNat ≤
      state.lastReceiveTimestampNs.toNat := by
    rw [toNat_stdMax]
    exact Nat.max_le.mpr ⟨h.lastIssue, seen⟩
  have hcounted (counter : BitVec 64) : 0 < (saturatingIncrement counter).toNat := by
    rw [toNat_saturatingIncrement]
    omega
  cases issue with
  | kPayloadRejected =>
    exact { receive := h.receive, lastIssue := hlastIssue, latency := h.latency
            issueSeen_iff := ⟨fun _ => .inr (.inr (.inr (.inr (.inl (hcounted _))))), fun _ => rfl⟩
            healthy := nofun, healthy_le := Nat.zero_le _, missing := h.missing
            received := h.received, observations := h.observations }
  | kQueueDropped =>
    exact { receive := h.receive, lastIssue := hlastIssue, latency := h.latency
            issueSeen_iff := ⟨fun _ => .inr (.inr (.inr (.inr (.inr (hcounted _))))), fun _ => rfl⟩
            healthy := nofun, healthy_le := Nat.zero_le _, missing := h.missing
            received := h.received, observations := h.observations }

end Mutators

/-! ## Runs -/

/-- A consistent record that is no older than any packet it was given. -/
structure UpToDate (record : SourceRecord) (packets : List ReceivedPacket) : Prop where
  consistent : Consistent record.health
  seen : ∀ packet ∈ packets,
    packet.receiveTimestampNs.toNat ≤ record.health.lastReceiveTimestampNs.toNat

/-- The last receive time is the running maximum. -/
theorem toNat_lastReceive_recordPacket {state : SourceState} {packet : ReceivedPacket}
    {observation : SequenceObservation} (tracked : observation.status ≠ .kUntracked) :
    (state.recordPacket packet observation).lastReceiveTimestampNs.toNat =
      max packet.receiveTimestampNs.toNat state.lastReceiveTimestampNs.toNat := by
  obtain ⟨hlast, _, _⟩ := @vitals_recordPacket state packet observation tracked
  rw [hlast, toNat_stdMax]

/-- The calls about one source are heralded too. -/
theorem Heralded.eventsOf {events : List HealthEvent} (heralded : Heralded events)
    (source : SensorSource) : Heralded (Runtime.eventsOf source events) := by
  induction heralded with
  | nil => exact .nil
  | packet earlier packet ih =>
    rw [eventsOf_append_singleton]
    split
    · exact ih.packet packet
    · exact ih
  | issue earlier observed issue ih =>
    rw [eventsOf_append_singleton]
    split
    next hsource =>
      refine ih.issue ?_ issue
      rw [observedPackets_eventsOf]
      exact List.mem_filter.mpr ⟨observed, decide_eq_true hsource⟩
    · exact ih

/-- **One source**: its record is up to date with its calls, and it has none before its first
packet. -/
theorem upToDate_history (config : SourceHealthMonitorConfig) {events : List HealthEvent}
    (heralded : Heralded events) :
    match (monitorMachine config).history events with
    | none => observedPackets events = []
    | some record => UpToDate record (observedPackets events) := by
  induction heralded with
  | nil => rfl
  | @packet events earlier packet ih =>
    rw [BoundedMachine.history_append_singleton, observedPackets_append_packet]
    cases hhistory : (monitorMachine config).history events with
    | none =>
      rw [hhistory] at ih
      let observation : SequenceObservation :=
        { status := .kFirst, sequenceNumber := packet.packet.header.sequenceNumber }
      have hgapped : Gapped observation := ⟨nofun, fun h => absurd rfl h⟩
      have htracked : observation.status ≠ .kUntracked := nofun
      refine ⟨consistent_first rfl hgapped, fun other hother => ?_⟩
      rw [ih, List.nil_append] at hother
      rw [List.mem_singleton.mp hother]
      change _ ≤ (({} : SourceState).recordPacket packet observation).lastReceiveTimestampNs.toNat
      rw [toNat_lastReceive_recordPacket htracked]
      exact Nat.le_max_left _ _
    | some record =>
      rw [hhistory] at ih
      have htracked := observation_tracked record packet
      refine ⟨ih.consistent.recordPacket htracked (gapped_observation record packet),
        fun other hother => ?_⟩
      change _ ≤ (record.health.recordPacket packet _).lastReceiveTimestampNs.toNat
      rw [toNat_lastReceive_recordPacket htracked]
      rcases List.mem_append.mp hother with hother | hother
      · exact (ih.seen other hother).trans (Nat.le_max_right _ _)
      · rw [List.mem_singleton.mp hother]
        exact Nat.le_max_left _ _
  | @issue events packet earlier observed issue ih =>
    rw [BoundedMachine.history_append_singleton, observedPackets_append_issue]
    cases hhistory : (monitorMachine config).history events with
    | none =>
      -- its packet would have opened the record
      rw [hhistory] at ih
      rw [show observedPackets events = [] from ih] at observed
      exact absurd observed List.not_mem_nil
    | some record =>
      rw [hhistory] at ih
      have hlast : (record.health.recordIssue packet issue).lastReceiveTimestampNs =
          record.health.lastReceiveTimestampNs := by
        cases issue <;> rfl
      refine ⟨ih.consistent.recordIssue issue (ih.seen packet observed), fun other hother => ?_⟩
      change _ ≤ (record.health.recordIssue packet issue).lastReceiveTimestampNs.toNat
      rw [hlast]
      exact ih.seen other hother

/-- **Every record of a reachable monitor is consistent**, when every issue concerns a packet that
was observed before. -/
theorem consistent_of_reachable {config : SourceHealthMonitorConfig} {monitor : SourceHealthMonitor}
    (made : SourceHealthMonitor.make config = .ok monitor) {events : List HealthEvent}
    (heralded : Heralded events) :
    ∀ entry ∈ (monitor.runEvents events).1.sources.entries, Consistent entry.2 := by
  rintro ⟨source, state⟩ hentry
  have hlookup := KeyedTable.lookup_of_mem hentry
  rw [(runEvents_invariant made events).mirrors.lookup_health] at hlookup
  obtain ⟨record, hrecord, rfl⟩ := Option.map_eq_some_iff.mp hlookup
  rw [BoundedMachine.lookup_run] at hrecord
  split at hrecord
  · have hown := upToDate_history config (heralded.eventsOf source)
    have hhistory : (monitorMachine config).history (eventsOf source events) = some record := hrecord
    rw [hhistory] at hown
    exact hown.consistent
  · cases hrecord

/-- A gap, and an issue about the packet before it. -/
theorem consistent_of_reachable_gap :
    let monitor : SourceHealthMonitor :=
      { config := {}, streamTracker := { config := { maxSources := 256 } } }
    let run := monitor.runEvents
      [.packet (numbered 10), .packet (numbered 14), .issue (numbered 10) .kPayloadRejected]
    ∀ entry ∈ run.1.sources.entries, Consistent entry.2 := by
  intro monitor run
  have hheralded : Heralded
      [.packet (numbered 10), .packet (numbered 14), .issue (numbered 10) .kPayloadRejected] :=
    ((Heralded.nil.packet _).packet _).issue (by decide) _
  exact @consistent_of_reachable {} monitor rfl _ hheralded

end Driveflow.Runtime
