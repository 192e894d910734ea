import Driveflow.Laws.Runtime.SourceCounters

/-!
# What packets alone decide

The I/O thread and the workers write to the same health records. Packets decide the tracker, which
sources have a record, and every field of a record but five (`packetSide`); issues touch only those
five. A report is the snapshots of the admitted sources, each taken from the record its own log
leads to (`report_sources_eq`), so what packets decide is equal in any two runs that observe the
same packets.
-/

namespace Driveflow.Runtime

open Library Net Protocol SourceHealthMonitor

/-! ## Records -/

/-- The part of a record that only packets write. -/
def SourceHealthMonitor.SourceState.packetSide (state : SourceState) : SourceState :=
  { state with
    payloadsRejected := 0
    packetsDroppedQueueFull := 0
    healthyPacketsSinceIssue := 0
    lastIssueTimestampNs := 0
    issueSeen := false }

/-- An issue writes none of the fields of the packet side. -/
theorem packetSide_recordIssue (state : SourceState) (packet : ReceivedPacket)
    (issue : SourceHealthIssue) : (state.recordIssue packet issue).packetSide = state.packetSide := by
  cases issue <;> rfl

/-- What a packet writes to the packet side, it reads from the packet side. -/
theorem packetSide_recordPacket (state : SourceState) (packet : ReceivedPacket)
    (observation : SequenceObservation) :
    (state.packetSide.recordPacket packet observation).packetSide =
      (state.recordPacket packet observation).packetSide := by
  unfold SourceState.recordPacket SourceState.recordLatency SourceState.recordStatus
  by_cases hfirst : state.packetsReceived = 0
  · by_cases hanomaly : packet.packet.header.sourceTimestampNs > packet.receiveTimestampNs
    · cases observation.status <;>
        simp only [SourceState.packetSide, SourceState.recordRecentTimestamp,
          SourceState.markIssue, hfirst, hanomaly, if_true]
    · cases observation.status <;>
        simp only [SourceState.packetSide, SourceState.recordRecentTimestamp,
          SourceState.markIssue, hfirst, hanomaly, if_true, if_false, Bool.false_eq_true]
  · by_cases hanomaly : packet.packet.header.sourceTimestampNs > packet.receiveTimestampNs
    · cases observation.status <;>
        simp only [SourceState.packetSide, SourceState.recordRecentTimestamp,
          SourceState.markIssue, hfirst, hanomaly, if_true, if_false]
    · cases observation.status <;>
        simp only [SourceState.packetSide, SourceState.recordRecentTimestamp,
          SourceState.markIssue, hfirst, hanomaly, if_true, if_false, Bool.false_eq_true]

/-- **The packet side of a record is decided by the packets of its log.** -/
theorem packetSide_replay (log : List LogEntry) :
    (replay log).packetSide = (replay (SourceLog.packets log)).packetSide := by
  induction log using List.reverseRecOn with
  | nil => rfl
  | append_singleton log entry ih =>
    rw [replay_append_singleton, SourceLog.packets_append_singleton]
    cases entry with
    | packet packet observation =>
      have hpacket : (LogEntry.packet packet observation).isPacket = true := rfl
      rw [if_pos hpacket, replay_append_singleton]
      change ((replay log).recordPacket packet observation).packetSide =
        ((replay (SourceLog.packets log)).recordPacket packet observation).packetSide
      rw [← packetSide_recordPacket, ih, packetSide_recordPacket]
    | issue packet issue =>
      exact (packetSide_recordIssue _ packet issue).trans ih

/-! ## Runs -/

section Runs

variable {config : SourceHealthMonitorConfig} {monitor : SourceHealthMonitor}

/-- The packets of the log, with the statuses they were given, are those of a run without issues. -/
theorem packets_runEvents (monitor : SourceHealthMonitor) (events : List HealthEvent) :
    SourceLog.packets (monitor.runEvents events).2 =
      (monitor.runEvents ((observedPackets events).map .packet)).2 := by
  induction events using List.reverseRecOn with
  | nil => rfl
  | append_singleton events event ih =>
    rw [runEvents_append_singleton, SourceLog.packets_append_singleton, apply_entry]
    cases event with
    | packet packet =>
      rw [observedPackets_append_packet]
      change SourceLog.packets _ ++ [_] = _
      rw [List.map_append, List.map_singleton, runEvents_append_singleton, apply_entry, ih]
      have hobserved : observedPackets ((observedPackets events).map HealthEvent.packet) =
          observedPackets events := by
        rw [observedPackets, List.filterMap_map]
        exact List.filterMap_some
      rw [runEvents_streamTracker, runEvents_streamTracker, hobserved]
    | issue packet issue =>
      rw [observedPackets_append_issue]
      exact ih

/-- The packets of the log of one source. -/
theorem packets_ownLog (source : SensorSource) (log : List LogEntry) :
    SourceLog.packets (ownLog source log) =
      (SourceLog.packets log).filter fun entry => identifySensorSource entry.subject = source := by
  have hdrop (entries : List LogEntry) :
      SourceLog.packets (entries.dropWhile fun entry => !entry.isPacket) =
        SourceLog.packets entries := by
    induction entries with
    | nil => rfl
    | cons entry entries ih =>
      rw [List.dropWhile_cons]
      cases hentry : entry.isPacket with
      | true => rfl
      | false =>
        rw [Bool.not_false, if_pos rfl, ih, SourceLog.packets, SourceLog.packets,
          List.filter_cons_of_neg (by rw [hentry]; exact Bool.false_ne_true)]
  rw [ownLog, hdrop, SourceLog.packets, SourceLog.packets, List.filter_filter, List.filter_filter]
  exact List.filter_congr fun entry _ => Bool.and_comm _ _

/-- **A report is the snapshots of the admitted sources**, each from the record that the source's
own log leads to, in the order of their keys. -/
theorem report_sources_eq (made : SourceHealthMonitor.make config = .ok monitor)
    (events : List HealthEvent) (nowTimestampNs : BitVec 64) :
    ((monitor.runEvents events).1.report nowTimestampNs).sources =
      ((admitted config.maxSources (packetSources events)).map fun source =>
        (replay (ownLog source (monitor.runEvents events).2)).makeSnapshot config source
          nowTimestampNs).mergeSort fun first second => sortKey first ≤ sortKey second := by
  have hinvariant := runEvents_invariant made events
  have hkeys : _ = admitted config.maxSources _ := (monitorMachine config).keys_run events
  rw [opened_monitorMachine] at hkeys
  rw [SourceHealthMonitor.report]
  dsimp only
  refine congrArg (fun snapshots => List.mergeSort snapshots _) ?_
  rw [hinvariant.mirrors.health, hinvariant.config_eq, ← hkeys]
  change (((monitorMachine config).run events).entries.map _).map _ =
    (((monitorMachine config).run events).entries.map _).map _
  rw [List.map_map, List.map_map]
  refine List.map_congr_left fun entry hmem => ?_
  have hlogged := hinvariant.logged entry.1 entry.2 (KeyedTable.lookup_of_mem hmem)
  simp only [Function.comp_apply, hlogged.2.2]

/-- The snapshots of a report. -/
theorem mem_report_sources (made : SourceHealthMonitor.make config = .ok monitor)
    {events : List HealthEvent} {nowTimestampNs : BitVec 64} {snapshot : SourceHealthSnapshot} :
    snapshot ∈ ((monitor.runEvents events).1.report nowTimestampNs).sources ↔
      ∃ source ∈ admitted config.maxSources (packetSources events),
        snapshot = (replay (ownLog source (monitor.runEvents events).2)).makeSnapshot config source
          nowTimestampNs := by
  rw [report_sources_eq made, List.mem_mergeSort, List.mem_map]
  exact exists_congr fun _ => and_congr_right fun _ => eq_comm

/-- The metrics of a report are the tracker's. -/
theorem report_streamMetrics (monitor : SourceHealthMonitor) (events : List HealthEvent)
    (nowTimestampNs : BitVec 64) :
    ((monitor.runEvents events).1.report nowTimestampNs).streamMetrics =
      (monitor.streamTracker.observeAll (observedPackets events)).metrics := by
  rw [← runEvents_streamTracker]
  rfl

end Runs

/-! ## Two runs that observe the same packets -/

/-- What an issue or the clock may change of a snapshot, left out. -/
def SourceHealthSnapshot.packetFields (snapshot : SourceHealthSnapshot) : SourceHealthSnapshot :=
  { snapshot with
    status := .kUnknown
    inactivityNs := 0
    payloadsRejected := 0
    packetsDroppedQueueFull := 0 }

/-- They are read from the packet side. -/
theorem packetFields_makeSnapshot (config : SourceHealthMonitorConfig) (source : SensorSource)
    (state : SourceState) (nowTimestampNs : BitVec 64) :
    (state.makeSnapshot config source nowTimestampNs).packetFields =
      (state.packetSide.makeSnapshot config source 0).packetFields := by
  have hrate : state.packetSide.currentRateHz = state.currentRateHz := by
    unfold SourceState.currentRateHz
    rfl
  simp only [SourceState.makeSnapshot, SourceHealthSnapshot.packetFields, hrate]
  rfl

/-- A snapshot but for its status. -/
def SourceHealthSnapshot.withoutStatus (snapshot : SourceHealthSnapshot) : SourceHealthSnapshot :=
  { snapshot with status := .kUnknown }

/-- It is read from the packet side and the two counters of issues. -/
theorem withoutStatus_makeSnapshot (config : SourceHealthMonitorConfig) (source : SensorSource)
    (state : SourceState) (nowTimestampNs : BitVec 64) :
    (state.makeSnapshot config source nowTimestampNs).withoutStatus =
      { state.packetSide.makeSnapshot config source nowTimestampNs with
        status := .kUnknown
        payloadsRejected := state.issueCounter .kPayloadRejected
        packetsDroppedQueueFull := state.issueCounter .kQueueDropped } := by
  have hrate : state.packetSide.currentRateHz = state.currentRateHz := by
    unfold SourceState.currentRateHz
    rfl
  simp only [SourceState.makeSnapshot, SourceHealthSnapshot.withoutStatus, hrate]
  rfl

section TwoRuns

variable {config : SourceHealthMonitorConfig} {monitor : SourceHealthMonitor}
  {events events' : List HealthEvent}

/-- What was observed decides the packets of every source, with their statuses. -/
theorem packets_ownLog_eq (same : observedPackets events = observedPackets events')
    (source : SensorSource) :
    SourceLog.packets (ownLog source (monitor.runEvents events).2) =
      SourceLog.packets (ownLog source (monitor.runEvents events').2) := by
  rw [packets_ownLog, packets_ownLog, packets_runEvents, packets_runEvents, same]

/-- The packet side of a source is decided by the packets observed. -/
theorem packetSide_ownLog (same : observedPackets events = observedPackets events')
    (source : SensorSource) :
    (replay (ownLog source (monitor.runEvents events).2)).packetSide =
      (replay (ownLog source (monitor.runEvents events').2)).packetSide := by
  rw [packetSide_replay, packetSide_replay (ownLog source (monitor.runEvents events').2),
    packets_ownLog_eq same]

/-- Sorting sees only the sources of snapshots. -/
theorem map_mergeSort_snapshots {view : SourceHealthSnapshot → SourceHealthSnapshot}
    (keeps : ∀ snapshot, (view snapshot).source = snapshot.source)
    (snapshots : List SourceHealthSnapshot) :
    (snapshots.mergeSort fun first second => sortKey first ≤ sortKey second).map view =
      (snapshots.map view).mergeSort fun first second => sortKey first ≤ sortKey second := by
  refine List.map_mergeSort fun first _ second _ => ?_
  have hkey (snapshot : SourceHealthSnapshot) : sortKey (view snapshot) = sortKey snapshot := by
    rw [sortKey, keeps]
    rfl
  rw [hkey, hkey]

/-- Two reports agree in a view of their snapshots, if each admitted source does. -/
theorem map_report_sources (made : SourceHealthMonitor.make config = .ok monitor)
    (same : observedPackets events = observedPackets events')
    (view : SourceHealthSnapshot → SourceHealthSnapshot)
    (keeps : ∀ snapshot, (view snapshot).source = snapshot.source)
    {nowTimestampNs nowTimestampNs' : BitVec 64}
    (agree : ∀ source ∈ admitted config.maxSources (packetSources events),
      view ((replay (ownLog source (monitor.runEvents events).2)).makeSnapshot config source
          nowTimestampNs) =
        view ((replay (ownLog source (monitor.runEvents events').2)).makeSnapshot config source
          nowTimestampNs')) :
    ((monitor.runEvents events).1.report nowTimestampNs).sources.map view =
      ((monitor.runEvents events').1.report nowTimestampNs').sources.map view := by
  rw [report_sources_eq made, report_sources_eq made, map_mergeSort_snapshots keeps,
    map_mergeSort_snapshots keeps, ← map_observedPackets events', ← same, map_observedPackets,
    List.map_map, List.map_map]
  refine congrArg (fun snapshots => List.mergeSort snapshots _) ?_
  exact List.map_congr_left agree

/-- **What packets decide is equal in two reports**, whatever issues there were and whenever the
reports are made. -/
theorem report_packetFields (made : SourceHealthMonitor.make config = .ok monitor)
    (same : observedPackets events = observedPackets events')
    (nowTimestampNs nowTimestampNs' : BitVec 64) :
    let report := (monitor.runEvents events).1.report nowTimestampNs
    let report' := (monitor.runEvents events').1.report nowTimestampNs'
    report.streamMetrics = report'.streamMetrics ∧
      report.sources.map SourceHealthSnapshot.packetFields =
        report'.sources.map SourceHealthSnapshot.packetFields := by
  intro report report'
  constructor
  · have hmetrics := report_streamMetrics monitor events nowTimestampNs
    rw [same] at hmetrics
    exact hmetrics.trans (report_streamMetrics monitor events' nowTimestampNs').symm
  · refine map_report_sources made same SourceHealthSnapshot.packetFields (fun _ => rfl)
      fun source _ => ?_
    rw [packetFields_makeSnapshot, packetSide_ownLog same, ← packetFields_makeSnapshot]

end TwoRuns

end Driveflow.Runtime
