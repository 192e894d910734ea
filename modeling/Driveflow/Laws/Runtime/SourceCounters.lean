import Driveflow.Laws.Runtime.SourceHealth

/-!
# What the monitor counts

A snapshot counts the packets of its source and the issues of each kind. The log of a source leaves
out the issues reported before its first packet. In a run in which every issue follows its packet
(`Heralded`) there are none, and the counters count every call about the source
(`report_counters`).
-/

namespace Driveflow.Runtime

open Library Net Protocol SourceHealthMonitor

/-! ## Calls -/

/-- The packets that were observed. -/
def observedPackets (events : List HealthEvent) : List ReceivedPacket :=
  events.filterMap fun
    | .packet packet => some packet
    | .issue _ _ => none

/-- The packets an issue was reported about. -/
def issuePackets (kind : SourceHealthIssue) (events : List HealthEvent) : List ReceivedPacket :=
  events.filterMap fun
    | .packet _ => none
    | .issue packet issue => if issue = kind then some packet else none

/-- An observed packet is the last one observed. -/
theorem observedPackets_append_packet (events : List HealthEvent) (packet : ReceivedPacket) :
    observedPackets (events ++ [.packet packet]) = observedPackets events ++ [packet] :=
  List.filterMap_append

/-- An issue observes no packet. -/
theorem observedPackets_append_issue (events : List HealthEvent) (packet : ReceivedPacket)
    (issue : SourceHealthIssue) :
    observedPackets (events ++ [.issue packet issue]) = observedPackets events :=
  List.filterMap_append.trans (List.append_nil _)

/-- The sources that send packets are those of the observed packets. -/
theorem map_observedPackets (events : List HealthEvent) :
    (observedPackets events).map identifySensorSource = packetSources events := by
  rw [observedPackets, List.map_filterMap, packetSources]
  refine List.filterMap_congr fun event _ => ?_
  cases event <;> rfl

/-- The calls about one source. -/
def eventsOf (source : SensorSource) (events : List HealthEvent) : List HealthEvent :=
  events.filter fun event => identifySensorSource event.subject = source

private theorem filter_about (source : SensorSource) (packet : ReceivedPacket) :
    (some packet).filter (fun packet => decide (identifySensorSource packet = source)) =
      if decide (identifySensorSource packet = source) = true then some packet else none :=
  rfl

/-- The packets observed in the calls about a source are those that the source sent. -/
theorem observedPackets_eventsOf (source : SensorSource) (events : List HealthEvent) :
    observedPackets (eventsOf source events) =
      (observedPackets events).filter fun packet => identifySensorSource packet = source := by
  rw [observedPackets, eventsOf, List.filterMap_filter, observedPackets, List.filter_filterMap]
  refine List.filterMap_congr fun event _ => ?_
  cases event with
  | packet packet => exact (filter_about source packet).symm
  | issue packet issue => exact ite_self _

/-- The issues in the calls about a source are those of its packets. -/
theorem issuePackets_eventsOf (kind : SourceHealthIssue) (source : SensorSource)
    (events : List HealthEvent) :
    issuePackets kind (eventsOf source events) =
      (issuePackets kind events).filter fun packet => identifySensorSource packet = source := by
  rw [issuePackets, eventsOf, List.filterMap_filter, issuePackets, List.filter_filterMap]
  refine List.filterMap_congr fun event _ => ?_
  cases event with
  | packet packet => exact ite_self _
  | issue packet issue =>
    dsimp only
    by_cases hkind : issue = kind
    · rw [if_pos hkind]
      exact (filter_about source packet).symm
    · rw [if_neg hkind]
      exact ite_self _

/-- The calls about a source grow by those about it only. -/
theorem eventsOf_append_singleton (source : SensorSource) (events : List HealthEvent)
    (event : HealthEvent) :
    eventsOf source (events ++ [event]) =
      if identifySensorSource event.subject = source then eventsOf source events ++ [event]
      else eventsOf source events := by
  rw [eventsOf, List.filter_append, List.filter_singleton]
  by_cases hsource : identifySensorSource event.subject = source
  · rw [if_pos hsource, decide_eq_true hsource]
    rfl
  · rw [if_neg hsource, decide_eq_false hsource]
    exact List.append_nil _

/-! ## The log of a source -/

/-- The call that an entry logs. -/
def LogEntry.event : LogEntry → HealthEvent
  | .packet received _ => .packet received
  | .issue received kind => .issue received kind

/-- An entry and its call are about one packet. -/
theorem LogEntry.subject_event (entry : LogEntry) : entry.event.subject = entry.subject := by
  cases entry <;> rfl

/-- Nothing but the calls is logged. -/
theorem map_event_runEvents (monitor : SourceHealthMonitor) (events : List HealthEvent) :
    (monitor.runEvents events).2.map LogEntry.event = events := by
  induction events using List.reverseRecOn with
  | nil => rfl
  | append_singleton events event ih =>
    rw [runEvents_append_singleton, List.map_append, ih, List.map_singleton, apply_entry]
    cases event <;> rfl

/-- Every issue is reported about a packet that was observed before. -/
inductive Heralded : List HealthEvent → Prop where
  | nil : Heralded []
  | packet {events} (earlier : Heralded events) (packet) : Heralded (events ++ [.packet packet])
  | issue {events packet} (earlier : Heralded events)
    (observed : packet ∈ observedPackets events) (issue) :
    Heralded (events ++ [.issue packet issue])

/-- The log of a source takes a call about it, if it may begin with it. -/
private theorem map_ownLog_append_singleton {source : SensorSource} {log : List LogEntry}
    {entry : LogEntry} (taken : identifySensorSource entry.subject = source →
      entry.isPacket = true ∨ ownLog source log ≠ []) :
    (ownLog source (log ++ [entry])).map LogEntry.event =
      if identifySensorSource entry.event.subject = source then
        (ownLog source log).map LogEntry.event ++ [entry.event]
      else (ownLog source log).map LogEntry.event := by
  rw [ownLog_append_singleton, LogEntry.subject_event]
  by_cases hsource : identifySensorSource entry.subject = source
  · rw [if_pos ⟨hsource, taken hsource⟩, if_pos hsource, List.map_append, List.map_singleton]
  · rw [if_neg fun h => hsource h.1, if_neg hsource]

/-- **The log of a source is every call about it**, when every issue follows its packet. -/
theorem ownLog_of_heralded (monitor : SourceHealthMonitor) {events : List HealthEvent}
    (heralded : Heralded events) (source : SensorSource) :
    (ownLog source (monitor.runEvents events).2).map LogEntry.event = eventsOf source events := by
  induction heralded with
  | nil => rfl
  | @packet events earlier packet ih =>
    rw [runEvents_append_singleton, eventsOf_append_singleton, apply_entry,
      map_ownLog_append_singleton fun _ => Or.inl rfl, ih]
    rfl
  | @issue events packet earlier observed issue ih =>
    rw [runEvents_append_singleton, eventsOf_append_singleton, apply_entry,
      map_ownLog_append_singleton, ih]
    · rfl
    · intro hsource
      -- its packet is in the log already
      refine Or.inr fun hempty => ?_
      have hmem : packet ∈ observedPackets (eventsOf source events) := by
        rw [observedPackets_eventsOf]
        exact List.mem_filter.mpr ⟨observed, decide_eq_true hsource⟩
      rw [← ih, hempty] at hmem
      exact List.not_mem_nil hmem

/-! ## The counters of a record -/

/-- The counter of an issue. -/
def SourceHealthMonitor.SourceState.issueCounter (state : SourceState) :
    SourceHealthIssue → BitVec 64
  | .kPayloadRejected => state.payloadsRejected
  | .kQueueDropped => state.packetsDroppedQueueFull

/-- A packet is no issue. -/
theorem issueCounter_recordPacket (state : SourceState) (packet : ReceivedPacket)
    (observation : SequenceObservation) (kind : SourceHealthIssue) :
    (state.recordPacket packet observation).issueCounter kind = state.issueCounter kind := by
  have hlatency (state : SourceState) :
      (state.recordLatency packet).1.issueCounter kind = state.issueCounter kind := by
    unfold SourceState.recordLatency
    dsimp only
    split <;> cases kind <;> rfl
  have hstatus (state : SourceState) (timestamp : BitVec 64) (packetHasIssue : Bool) :
      (state.recordStatus observation timestamp packetHasIssue).issueCounter kind =
        state.issueCounter kind := by
    unfold SourceState.recordStatus
    dsimp only
    cases observation.status <;> cases packetHasIssue <;> cases kind <;> rfl
  unfold SourceState.recordPacket
  dsimp only
  rw [hstatus, hlatency]
  split <;> cases kind <;> rfl

/-- An issue counts for its own kind. -/
theorem issueCounter_recordIssue (state : SourceState) (packet : ReceivedPacket)
    (issue kind : SourceHealthIssue) :
    (state.recordIssue packet issue).issueCounter kind =
      if issue = kind then saturatingIncrement (state.issueCounter kind)
      else state.issueCounter kind := by
  cases issue <;> cases kind <;> rfl

/-- **An issue counter counts the issues of the log**, up to its saturation. -/
theorem toNat_issueCounter_replay (kind : SourceHealthIssue) (log : List LogEntry) :
    ((replay log).issueCounter kind).toNat =
      min (issuePackets kind (log.map LogEntry.event)).length (2 ^ 64 - 1) := by
  induction log using List.reverseRecOn with
  | nil => cases kind <;> rfl
  | append_singleton log entry ih =>
    rw [replay_append_singleton, List.map_append, issuePackets, List.filterMap_append]
    change _ = min (issuePackets kind (log.map LogEntry.event) ++ _).length _
    cases entry with
    | packet packet observation =>
      have hsame := issueCounter_recordPacket (replay log) packet observation kind
      change ((replay log).recordPacket packet observation).issueCounter kind = _ at hsame
      change (((replay log).recordPacket packet observation).issueCounter kind).toNat = _
      rw [hsame, ih]
      exact congrArg (fun packets : List ReceivedPacket => min packets.length (2 ^ 64 - 1))
        (List.append_nil _).symm
    | issue packet issue =>
      change (((replay log).recordIssue packet issue).issueCounter kind).toNat = _
      rw [issueCounter_recordIssue, List.length_append, List.map_singleton, List.filterMap_cons,
        List.filterMap_nil]
      dsimp only [LogEntry.event]
      by_cases hkind : issue = kind
      · rw [if_pos hkind, if_pos hkind, toNat_saturatingIncrement, ih]
        simp only [List.length_singleton]
        omega
      · rw [if_neg hkind, if_neg hkind]
        exact ih

/-- The packets of a log. -/
theorem length_packets_eq (log : List LogEntry) :
    (SourceLog.packets log).length = (observedPackets (log.map LogEntry.event)).length := by
  rw [SourceLog.packets, observedPackets, ← List.countP_eq_length_filter,
    List.length_filterMap_eq_countP, List.countP_map]
  refine List.countP_congr fun entry _ => ?_
  cases entry <;> rfl

/-- **The snapshot of an admitted source counts every call about it**, up to the saturation of the
counters, when every issue follows its packet. -/
theorem report_counters {config : SourceHealthMonitorConfig} {monitor : SourceHealthMonitor}
    (made : SourceHealthMonitor.make config = .ok monitor) {events : List HealthEvent}
    (heralded : Heralded events) {source : SensorSource} (nowTimestampNs : BitVec 64)
    (isAdmitted : source ∈ admitted config.maxSources (packetSources events)) :
    let run := monitor.runEvents events
    let about (packet : ReceivedPacket) : Bool := identifySensorSource packet = source
    ∃ snapshot ∈ (run.1.report nowTimestampNs).sources, snapshot.source = source ∧
      (∀ other ∈ (run.1.report nowTimestampNs).sources, other.source = source →
        other = snapshot) ∧
      snapshot.packetsReceived.toNat = min ((observedPackets events).countP about) (2 ^ 64 - 1) ∧
      snapshot.packetsDroppedQueueFull.toNat =
        min ((issuePackets .kQueueDropped events).countP about) (2 ^ 64 - 1) ∧
      snapshot.payloadsRejected.toNat =
        min ((issuePackets .kPayloadRejected events).countP about) (2 ^ 64 - 1) := by
  intro run about
  obtain ⟨htracked, hmem, honly⟩ := report_of_admitted made events nowTimestampNs isAdmitted
  have hown := ownLog_of_heralded monitor heralded source
  have hissues (kind : SourceHealthIssue) :
      ((replay (ownLog source run.2)).issueCounter kind).toNat =
        min ((issuePackets kind events).countP about) (2 ^ 64 - 1) := by
    rw [toNat_issueCounter_replay, hown, issuePackets_eventsOf, List.countP_eq_length_filter]
  refine ⟨_, hmem, rfl, honly, ?_, hissues .kQueueDropped, hissues .kPayloadRejected⟩
  have hpackets := (logged_replay htracked).packets
  rw [length_packets_eq, hown, observedPackets_eventsOf, ← List.countP_eq_length_filter]
    at hpackets
  exact hpackets

/-! ## The tracker of a monitor -/

/-- The monitor passes each packet on to its tracker and returns the observation it gets. -/
theorem observePacket_streamTracker (monitor : SourceHealthMonitor) (packet : ReceivedPacket) :
    (monitor.observePacket packet).1.streamTracker = (monitor.streamTracker.observe packet).1 ∧
      (monitor.observePacket packet).2 = (monitor.streamTracker.observe packet).2 := by
  unfold SourceHealthMonitor.observePacket
  dsimp only
  split <;> exact ⟨rfl, rfl⟩

/-- An issue does not reach the tracker. -/
theorem observeIssue_streamTracker (monitor : SourceHealthMonitor) (packet : ReceivedPacket)
    (issue : SourceHealthIssue) :
    (monitor.observeIssue packet issue).streamTracker = monitor.streamTracker := by
  unfold SourceHealthMonitor.observeIssue
  dsimp only
  split <;> rfl

/-- **The tracker of a monitor runs over the observed packets.** -/
theorem runEvents_streamTracker (monitor : SourceHealthMonitor) (events : List HealthEvent) :
    (monitor.runEvents events).1.streamTracker =
      monitor.streamTracker.observeAll (observedPackets events) := by
  induction events using List.reverseRecOn with
  | nil => rfl
  | append_singleton events event ih =>
    rw [runEvents_append_singleton]
    cases event with
    | packet packet =>
      rw [observedPackets_append_packet, SensorStreamTracker.observeAll, List.foldl_append]
      refine (observePacket_streamTracker _ packet).1.trans ?_
      rw [ih]
      rfl
    | issue packet issue =>
      rw [observedPackets_append_issue, ← ih]
      exact observeIssue_streamTracker _ packet issue

/-- Each packet observed is counted once. -/
theorem observeAll_packetsObserved (tracker : SensorStreamTracker) (packets : List ReceivedPacket) :
    (tracker.observeAll packets).metrics.packetsObserved =
      tracker.metrics.packetsObserved + BitVec.ofNat 64 packets.length := by
  induction packets using List.reverseRecOn with
  | nil => exact (BitVec.add_zero _).symm
  | append_singleton packets packet ih =>
    rw [SensorStreamTracker.observeAll, List.foldl_append]
    change ((tracker.observeAll packets).observe packet).1.metrics.packetsObserved = _
    rw [observe_tally, tally_packetsObserved, ih, List.length_append, BitVec.ofNat_add,
      ← BitVec.add_assoc]
    rfl

/-- A monitor's tracker counts the packets it observed. -/
theorem runEvents_packetsObserved {config : SourceHealthMonitorConfig}
    {monitor : SourceHealthMonitor} (made : SourceHealthMonitor.make config = .ok monitor)
    (events : List HealthEvent) :
    (monitor.runEvents events).1.streamTracker.metrics.packetsObserved =
      BitVec.ofNat 64 (observedPackets events).length := by
  obtain ⟨_, rfl⟩ := make_eq_ok made
  rw [runEvents_streamTracker, observeAll_packetsObserved]
  exact BitVec.zero_add _

end Driveflow.Runtime
