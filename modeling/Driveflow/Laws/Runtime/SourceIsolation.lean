import Driveflow.Laws.Runtime.Tables

/-!
# Sources are isolated

Many senders share one monitor. A call reads the record of its own source, and of the other sources
only whether there is room (`Mirrors.entry`). So the calls about an admitted source are answered as
by a monitor that hears of no other source (`logOf_runEvents`), and a refused source leaves no trace
but in the two counters of untracked packets (`withoutUntracked_runEvents`). Both halves are
`source_isolation`.
-/

namespace Driveflow.Runtime

open Library Net Protocol SourceHealthMonitor

/-! ## What a call reads -/

/-- How a call is logged, by what the one table holds of its source. -/
def entryOf (capacity : Nat) (table : KeyedTable SensorSource SourceRecord) :
    HealthEvent → LogEntry
  | .packet packet => .packet packet <|
    match table.lookup (identifySensorSource packet) with
    | none =>
      if table.size < capacity then .first packet.packet.header.sequenceNumber
      else .untracked packet.packet.header.sequenceNumber
    | some record => record.observation packet
  | .issue packet issue => .issue packet issue

section Runs

variable {config : SourceHealthMonitorConfig} {monitor : SourceHealthMonitor}
  {events : List HealthEvent} {source : SensorSource}

/-- **A call is answered from the record of its source**, and from the room if there is none. -/
theorem apply_eq_entryOf (made : SourceHealthMonitor.make config = .ok monitor)
    (events : List HealthEvent) (event : HealthEvent) :
    ((monitor.runEvents events).1.apply event).2 =
      entryOf config.maxSources ((monitorMachine config).run events) event := by
  have hinvariant := runEvents_invariant made events
  rw [apply_entry]
  cases event with
  | packet packet =>
    have hobservation := hinvariant.mirrors.observation packet
    rw [hinvariant.config_eq] at hobservation
    exact congrArg (LogEntry.packet packet) hobservation
  | issue packet issue => rfl

/-- The last event of a run is logged by what the table holds before it. -/
theorem runEvents_log_append_singleton (made : SourceHealthMonitor.make config = .ok monitor)
    (events : List HealthEvent) (event : HealthEvent) :
    (monitor.runEvents (events ++ [event])).2 = (monitor.runEvents events).2 ++
      [entryOf config.maxSources ((monitorMachine config).run events) event] := by
  rw [runEvents_append_singleton, apply_eq_entryOf made]

/-- An entry is about the packet of its event. -/
theorem subject_entryOf (capacity : Nat) (table : KeyedTable SensorSource SourceRecord)
    (event : HealthEvent) : (entryOf capacity table event).subject = event.subject := by
  cases event <;> rfl

/-- The records are those of the sources that the machine admits. -/
theorem mem_keys_iff (made : SourceHealthMonitor.make config = .ok monitor)
    (events : List HealthEvent) (source : SensorSource) :
    source ∈ (monitor.runEvents events).1.sources.keys ↔
      source ∈ admitted config.maxSources (packetSources events) := by
  have hkeys : _ = admitted config.maxSources _ := (monitorMachine config).keys_run events
  rw [(runEvents_invariant made events).mirrors.health, KeyedTable.keys_map, hkeys,
    opened_monitorMachine]

/-! ## One source alone -/

/-- The part of a log about one source. -/
def logOf (source : SensorSource) (log : List LogEntry) : List LogEntry :=
  log.filter fun entry => identifySensorSource entry.subject = source

/-- The log of a source grows by the entries about it only. -/
theorem logOf_append_singleton (source : SensorSource) (log : List LogEntry) (entry : LogEntry) :
    logOf source (log ++ [entry]) =
      if identifySensorSource entry.subject = source then logOf source log ++ [entry]
      else logOf source log := by
  rw [logOf, List.filter_append, List.filter_singleton]
  by_cases hsource : identifySensorSource entry.subject = source
  · rw [if_pos hsource, decide_eq_true hsource]
    rfl
  · rw [if_neg hsource, decide_eq_false hsource]
    exact List.append_nil _

/-- The sources of a run are those of its events in turn. -/
theorem packetSources_append_singleton (events : List HealthEvent) (event : HealthEvent) :
    packetSources (events ++ [event]) = packetSources events ++ packetSources [event] :=
  List.filterMap_append

/-- A source sends packets if it does in its own events, and nobody else does in them. -/
theorem mem_packetSources_eventsOf {other : SensorSource} :
    other ∈ packetSources (eventsOf source events) ↔
      other = source ∧ source ∈ packetSources events := by
  rw [← map_observedPackets, observedPackets_eventsOf, ← map_observedPackets, List.mem_map,
    List.mem_map]
  constructor
  · rintro ⟨packet, hmem, rfl⟩
    obtain ⟨hobserved, habout⟩ := List.mem_filter.mp hmem
    exact ⟨of_decide_eq_true habout, packet, hobserved, of_decide_eq_true habout⟩
  · rintro ⟨rfl, packet, hobserved, habout⟩
    exact ⟨packet, List.mem_filter.mpr ⟨hobserved, decide_eq_true habout⟩, habout⟩

/-- Alone, a source is admitted. -/
theorem mem_admitted_eventsOf (positive : 0 < config.maxSources) {other : SensorSource} :
    other ∈ admitted config.maxSources (packetSources (eventsOf source events)) ↔
      other = source ∧ source ∈ packetSources events := by
  rw [← mem_packetSources_eventsOf]
  constructor
  · exact fun h => mem_of_mem_admitted h
  · intro h
    have hsource := (mem_packetSources_eventsOf.mp h).1
    have halone := eraseDups_of_forall_eq
      (fun other hmem => (mem_packetSources_eventsOf.mp hmem).1) (hsource ▸ h)
    rw [admitted_of_few (halone ▸ positive), halone]
    exact List.mem_singleton.mpr hsource

/-- The sources that were refused nothing: their packets, if any, found room. -/
def NotRefused (config : SourceHealthMonitorConfig) (source : SensorSource)
    (events : List HealthEvent) : Prop :=
  source ∈ packetSources events → source ∈ admitted config.maxSources (packetSources events)

/-- A source that is not refused was not refused before either. -/
theorem NotRefused.of_prefix {before : List HealthEvent} (h : NotRefused config source events)
    (hinitial : before <+: events) : NotRefused config source before := by
  obtain ⟨after, rfl⟩ := hinitial
  unfold NotRefused at h
  rw [packetSources, List.filterMap_append] at h
  exact fun came => mem_admitted_of_append came (h (List.mem_append_left _ came))

/-- A source that was not refused is known to the machine of its own events alike. -/
private theorem lookup_alone (positive : 0 < config.maxSources)
    (notRefused : NotRefused config source events) :
    ((monitorMachine config).run (eventsOf source events)).lookup source =
      ((monitorMachine config).run events).lookup source := by
  rw [BoundedMachine.lookup_run, BoundedMachine.lookup_run, opened_monitorMachine,
    opened_monitorMachine]
  have hown : (monitorMachine config).own source (eventsOf source events) =
      (monitorMachine config).own source events :=
    List.filter_filter.trans (List.filter_congr fun _ _ => Bool.and_self _)
  rw [hown]
  refine if_congr ?_ rfl rfl
  refine (mem_admitted_eventsOf positive).trans ⟨fun h => notRefused h.2, fun h => ⟨rfl, ?_⟩⟩
  exact mem_of_mem_admitted h

/-- A source without a record was not admitted. -/
private theorem not_mem_admitted_of_lookup
    (new : ((monitorMachine config).run events).lookup source = none) :
    source ∉ admitted config.maxSources (packetSources events) := by
  have hkeys : _ = admitted config.maxSources _ := (monitorMachine config).keys_run events
  rw [← opened_monitorMachine config, ← hkeys]
  exact KeyedTable.lookup_eq_none_iff.mp new

/-- There is one record for each source admitted. -/
private theorem size_eq_admitted (events : List HealthEvent) :
    ((monitorMachine config).run events).size =
      (admitted config.maxSources (packetSources events)).length := by
  have hkeys : _ = admitted config.maxSources _ := (monitorMachine config).keys_run events
  rw [← KeyedTable.length_keys, hkeys, opened_monitorMachine]

/-- The first packet of a source that was not refused found room. -/
private theorem room_of_notRefused {packet : ReceivedPacket}
    (notRefused : NotRefused config (identifySensorSource packet) (events ++ [.packet packet]))
    (new : ((monitorMachine config).run events).lookup (identifySensorSource packet) = none) :
    ((monitorMachine config).run events).size < config.maxSources := by
  have hsources : packetSources (events ++ [.packet packet]) =
      packetSources events ++ [identifySensorSource packet] :=
    packetSources_append_singleton events _
  have hmem := notRefused (hsources ▸ List.mem_append_right _ List.mem_cons_self)
  rw [hsources, admitted_append_singleton, if_neg (not_mem_admitted_of_lookup new)] at hmem
  rw [size_eq_admitted]
  by_contra hfull
  rw [if_neg hfull] at hmem
  exact not_mem_admitted_of_lookup new hmem

/-- Alone, it finds nothing before it. -/
private theorem room_alone (positive : 0 < config.maxSources)
    (notRefused : NotRefused config source events)
    (new : ((monitorMachine config).run events).lookup source = none) :
    ((monitorMachine config).run (eventsOf source events)).size < config.maxSources := by
  have hnone : admitted config.maxSources (packetSources (eventsOf source events)) = [] := by
    refine List.eq_nil_iff_forall_not_mem.mpr fun other hmem => ?_
    exact not_mem_admitted_of_lookup new
      (notRefused ((mem_admitted_eventsOf positive).mp hmem).2)
  rw [size_eq_admitted, hnone]
  exact positive

/-- **The calls about a source are answered as by a monitor that gets no others**, if it was not
refused. -/
theorem logOf_runEvents (made : SourceHealthMonitor.make config = .ok monitor)
    (notRefused : NotRefused config source events) :
    logOf source (monitor.runEvents events).2 =
      (monitor.runEvents (eventsOf source events)).2 := by
  have hpositive : 0 < config.maxSources :=
    Nat.pos_of_ne_zero (validateConfig_eq_ok (make_eq_ok made).1).2.1
  induction events using List.reverseRecOn with
  | nil => rfl
  | append_singleton events event ih =>
    have hbefore := notRefused.of_prefix (List.prefix_append events [event])
    rw [runEvents_log_append_singleton made, logOf_append_singleton, eventsOf_append_singleton,
      subject_entryOf, ih hbefore]
    by_cases hsource : identifySensorSource event.subject = source
    · rw [if_pos hsource, if_pos hsource, runEvents_log_append_singleton made]
      refine congrArg (fun entry => _ ++ [entry]) ?_
      cases event with
      | issue packet issue => rfl
      | packet packet =>
        have hsame : identifySensorSource packet = source := hsource
        subst hsame
        have hlookup := lookup_alone hpositive hbefore
        unfold entryOf
        dsimp only
        rw [hlookup]
        cases hrecord : ((monitorMachine config).run events).lookup
            (identifySensorSource packet) with
        | some record => rfl
        | none =>
          rw [if_pos (room_of_notRefused notRefused hrecord),
            if_pos (room_alone hpositive hbefore hrecord)]
    · rw [if_neg hsource, if_neg hsource]

/-- The snapshots of one source. -/
def snapshotsOf (source : SensorSource) (report : SourceHealthReport) :
    List SourceHealthSnapshot :=
  report.sources.filter fun snapshot => snapshot.source = source

/-- An admitted source has one snapshot, any other has none. -/
theorem snapshotsOf_report (made : SourceHealthMonitor.make config = .ok monitor)
    (events : List HealthEvent) (source : SensorSource) (nowTimestampNs : BitVec 64) :
    snapshotsOf source ((monitor.runEvents events).1.report nowTimestampNs) =
      if source ∈ admitted config.maxSources (packetSources events) then
        [(replay (ownLog source (monitor.runEvents events).2)).makeSnapshot config source
          nowTimestampNs]
      else [] := by
  have hfilter (sources : List SensorSource) (distinct : sources.Nodup) :
      sources.filter (fun other => other = source) = if source ∈ sources then [source] else [] := by
    rw [List.filter_eq, distinct.count]
    split <;> rfl
  rw [snapshotsOf, report_sources_eq made]
  have hperm := (List.mergeSort_perm ((admitted config.maxSources (packetSources events)).map
    fun source => (replay (ownLog source (monitor.runEvents events).2)).makeSnapshot config source
      nowTimestampNs) fun first second => sortKey first ≤ sortKey second).filter
        fun snapshot => snapshot.source = source
  rw [List.filter_map] at hperm
  have hsources := hfilter _ (nodup_admitted config.maxSources (packetSources events))
  change List.Perm _ (List.map _ ((admitted config.maxSources (packetSources events)).filter
    fun other => other = source)) at hperm
  rw [hsources] at hperm
  split
  next hmem =>
    rw [if_pos hmem] at hperm
    exact List.perm_singleton.mp hperm
  next hmem =>
    rw [if_neg hmem] at hperm
    exact List.perm_nil.mp hperm

/-- **The snapshot of a source is that of a monitor that gets no others**, if it was not refused. -/
theorem snapshotsOf_eventsOf (made : SourceHealthMonitor.make config = .ok monitor)
    (notRefused : NotRefused config source events) (nowTimestampNs : BitVec 64) :
    snapshotsOf source ((monitor.runEvents events).1.report nowTimestampNs) =
      snapshotsOf source
        ((monitor.runEvents (eventsOf source events)).1.report nowTimestampNs) := by
  have hpositive : 0 < config.maxSources :=
    Nat.pos_of_ne_zero (validateConfig_eq_ok (make_eq_ok made).1).2.1
  have hown : ownLog source (monitor.runEvents (eventsOf source events)).2 =
      ownLog source (monitor.runEvents events).2 := by
    rw [← logOf_runEvents made notRefused, ownLog, ownLog, logOf, List.filter_filter]
    exact congrArg _ (List.filter_congr fun _ _ => Bool.and_self _)
  rw [snapshotsOf_report made, snapshotsOf_report made, hown]
  refine if_congr ?_ rfl rfl
  rw [mem_admitted_eventsOf hpositive]
  refine ⟨fun h => ⟨rfl, mem_of_mem_admitted h⟩, fun h => notRefused h.2⟩

/-! ## All sources but one -/

/-- The calls that are not about a source. -/
def eventsWithout (source : SensorSource) (events : List HealthEvent) : List HealthEvent :=
  events.filter fun event => identifySensorSource event.subject ≠ source

/-- The metrics but for the two counters of untracked packets. -/
def SensorStreamMetrics.withoutUntracked (metrics : SensorStreamMetrics) : SensorStreamMetrics :=
  { metrics with packetsObserved := 0, untrackedObservations := 0 }

/-- The two counters left out decide nothing about the others. -/
theorem withoutUntracked_tally (metrics : SensorStreamMetrics)
    (observation : SequenceObservation) :
    (metrics.withoutUntracked.tally observation).withoutUntracked =
      (metrics.tally observation).withoutUntracked := by
  unfold SensorStreamMetrics.tally
  cases observation.status <;> rfl

/-- An untracked packet bumps none but the two counters left out. -/
theorem withoutUntracked_tally_untracked (metrics : SensorStreamMetrics)
    (sequenceNumber : BitVec 64) :
    (metrics.tally (.untracked sequenceNumber)).withoutUntracked = metrics.withoutUntracked := rfl

/-- A source without a record at the end had none when its calls were answered. -/
private theorem entryOf_absent {event : HealthEvent}
    (absent : identifySensorSource event.subject ∉
      ((monitorMachine config).run (events ++ [event])).keys) :
    entryOf config.maxSources ((monitorMachine config).run events) event =
      match event with
      | .packet packet => .packet packet (.untracked packet.packet.header.sequenceNumber)
      | .issue packet issue => .issue packet issue := by
  have hbefore := (monitorMachine config).absent_of_append_singleton absent
  cases event with
  | issue packet issue => rfl
  | packet packet =>
    have hlookup : ((monitorMachine config).run events).lookup (identifySensorSource packet) =
        none := KeyedTable.lookup_eq_none_iff.mpr hbefore
    have hfull : ¬ ((monitorMachine config).run events).size < config.maxSources := by
      intro hroom
      have hfeed : (monitorMachine config).feed ((monitorMachine config).run events)
          (.packet packet) = _ := BoundedMachine.feed_new _ hlookup rfl hroom
      have hkeys := KeyedTable.keys_pushBack hbefore (SourceRecord.start packet)
      rw [BoundedMachine.run_append_singleton, hfeed] at absent
      exact absent (hkeys ▸ List.mem_append_right _ List.mem_cons_self)
    unfold entryOf
    dsimp only
    rw [hlookup]
    dsimp only
    rw [if_neg hfull]

/-- **A source without a record was answered untracked**, every time. -/
theorem untracked_of_absent (made : SourceHealthMonitor.make config = .ok monitor)
    (absent : source ∉ ((monitorMachine config).run events).keys) :
    ∀ packet observation, .packet packet observation ∈ (monitor.runEvents events).2 →
      identifySensorSource packet = source → observation.status = .kUntracked := by
  induction events using List.reverseRecOn with
  | nil => exact fun _ _ h => absurd h List.not_mem_nil
  | append_singleton events event ih =>
    rw [runEvents_log_append_singleton made]
    intro packet observation hmem hsource
    rcases List.mem_append.mp hmem with hmem | hmem
    · exact ih ((monitorMachine config).absent_of_append_singleton absent) _ _ hmem hsource
    · have hentry := List.mem_singleton.mp hmem
      have hsubject : event.subject = packet := by
        rw [← subject_entryOf config.maxSources ((monitorMachine config).run events), ← hentry]
        rfl
      rw [← hsource, ← hsubject] at absent
      rw [entryOf_absent absent] at hentry
      cases event with
      | issue => cases hentry
      | packet =>
        cases hentry
        rfl

/-- The last event tallies its observation, if it has one. -/
private theorem streamMetrics_append_singleton
    (made : SourceHealthMonitor.make config = .ok monitor) (events : List HealthEvent)
    (event : HealthEvent) :
    (monitor.runEvents (events ++ [event])).1.streamTracker.metrics =
      (observations [entryOf config.maxSources ((monitorMachine config).run events) event]).foldl
        SensorStreamMetrics.tally (monitor.runEvents events).1.streamTracker.metrics := by
  rw [streamMetrics_runEvents made, streamMetrics_runEvents made,
    runEvents_log_append_singleton made, observations, List.filterMap_append, List.foldl_append]
  rfl

/-- **Without its calls the metrics are the same**, but for the two counters. -/
theorem withoutUntracked_runEvents (made : SourceHealthMonitor.make config = .ok monitor)
    (absent : source ∉ ((monitorMachine config).run events).keys) :
    (monitor.runEvents (eventsWithout source events)).1.streamTracker.metrics.withoutUntracked =
      (monitor.runEvents events).1.streamTracker.metrics.withoutUntracked := by
  induction events using List.reverseRecOn with
  | nil => rfl
  | append_singleton events event ih =>
    have hbefore := (monitorMachine config).absent_of_append_singleton absent
    by_cases hsource : identifySensorSource event.subject = source
    · -- the call itself: it was ignored, or answered untracked
      rw [eventsWithout, List.filter_append, List.filter_singleton,
        decide_eq_false fun hne => hne hsource, cond_false, List.append_nil,
        streamMetrics_append_singleton made]
      rw [← hsource] at absent
      refine (ih hbefore).trans ?_
      rw [entryOf_absent absent]
      cases event with
      | packet packet =>
        exact (withoutUntracked_tally_untracked _ packet.packet.header.sequenceNumber).symm
      | issue packet issue => rfl
    · -- any other call is answered alike
      rw [eventsWithout, List.filter_append, List.filter_singleton, decide_eq_true hsource,
        cond_true, streamMetrics_append_singleton made, streamMetrics_append_singleton made]
      have hsame := (monitorMachine config).run_filter_absent hbefore
      change (monitorMachine config).run (eventsWithout source events) = _ at hsame
      change (List.foldl _ (monitor.runEvents (eventsWithout source events)).1.streamTracker.metrics
        (observations [entryOf _ ((monitorMachine config).run (eventsWithout source events)) _]
          )).withoutUntracked = _
      rw [hsame]
      generalize entryOf config.maxSources ((monitorMachine config).run events) event = entry
      cases entry with
      | packet packet observation =>
        change (SensorStreamMetrics.tally _ observation).withoutUntracked =
          (SensorStreamMetrics.tally _ observation).withoutUntracked
        rw [← withoutUntracked_tally, ih hbefore, withoutUntracked_tally]
      | issue packet issue => exact ih hbefore

/-- Without its calls the snapshots are the same. -/
theorem report_sources_eventsWithout (made : SourceHealthMonitor.make config = .ok monitor)
    (absent : source ∉ ((monitorMachine config).run events).keys) (nowTimestampNs : BitVec 64) :
    ((monitor.runEvents (eventsWithout source events)).1.report nowTimestampNs).sources =
      ((monitor.runEvents events).1.report nowTimestampNs).sources := by
  have hrun := runEvents_invariant made events
  have hwithout := runEvents_invariant made (eventsWithout source events)
  have hsame := (monitorMachine config).run_filter_absent absent
  change (monitorMachine config).run (eventsWithout source events) = _ at hsame
  rw [SourceHealthMonitor.report, SourceHealthMonitor.report, hrun.mirrors.health,
    hwithout.mirrors.health, hrun.config_eq, hwithout.config_eq, hsame]

/-- A refusal shows that its source has no record, then and later. -/
theorem absent_of_untracked (made : SourceHealthMonitor.make config = .ok monitor)
    {packet : ReceivedPacket} {observation : SequenceObservation}
    (logged : .packet packet observation ∈ (monitor.runEvents events).2)
    (untracked : observation.status = .kUntracked) :
    identifySensorSource packet ∉ ((monitorMachine config).run events).keys := by
  intro hmem
  obtain ⟨record, hrecord⟩ := Option.isSome_iff_exists.mp (KeyedTable.isSome_lookup_iff.mpr hmem)
  obtain ⟨_, htracked, _⟩ := (runEvents_invariant made events).logged _ _ hrecord
  refine htracked packet observation ?_ untracked
  -- its packets are all in its own log
  have hpackets := packets_ownLog (identifySensorSource packet) (monitor.runEvents events).2
  refine List.mem_of_mem_filter (?_ : _ ∈ SourceLog.packets _)
  rw [hpackets]
  exact List.mem_filter.mpr ⟨List.mem_filter.mpr ⟨logged, rfl⟩, decide_eq_true rfl⟩

end Runs

/-! ## Isolation -/

/-- **Sources are isolated, whatever the capacity.** For a source with a record, the observations of
its packets and its snapshots at every report time are those of a monitor that gets its calls alone.
For a source that was refused once, every packet is untracked, every issue is ignored, and without
its calls every report is the same but for the two counters of untracked packets. -/
theorem source_isolation (config : SourceHealthMonitorConfig) (monitor : SourceHealthMonitor)
    (made : SourceHealthMonitor.make config = .ok monitor) (events : List HealthEvent)
    (source : SensorSource) :
    let run := monitor.runEvents events
    (source ∈ run.1.sources.keys →
      logOf source run.2 = (monitor.runEvents (eventsOf source events)).2 ∧
      ∀ before, before <+: events → ∀ nowTimestampNs,
        snapshotsOf source ((monitor.runEvents before).1.report nowTimestampNs) =
          snapshotsOf source
            ((monitor.runEvents (eventsOf source before)).1.report nowTimestampNs)) ∧
    ((∃ packet observation, .packet packet observation ∈ run.2 ∧
        identifySensorSource packet = source ∧ observation.status = .kUntracked) →
      (∀ packet observation, .packet packet observation ∈ run.2 →
        identifySensorSource packet = source → observation.status = .kUntracked) ∧
      (∀ before, before <+: events → ∀ packet issue, identifySensorSource packet = source →
        (monitor.runEvents before).1.observeIssue packet issue = (monitor.runEvents before).1) ∧
      ∀ nowTimestampNs,
        let report := run.1.report nowTimestampNs
        let without := (monitor.runEvents (eventsWithout source events)).1.report nowTimestampNs
        without.sources = report.sources ∧
          without.streamMetrics.withoutUntracked = report.streamMetrics.withoutUntracked) := by
  intro run
  constructor
  · intro hmem
    have hadmitted := (mem_keys_iff made events source).mp hmem
    have hnotRefused : NotRefused config source events := fun _ => hadmitted
    refine ⟨logOf_runEvents made hnotRefused, fun before hinitial nowTimestampNs => ?_⟩
    exact snapshotsOf_eventsOf made (hnotRefused.of_prefix hinitial) nowTimestampNs
  · rintro ⟨packet, observation, hlogged, rfl, huntracked⟩
    have habsent := absent_of_untracked made hlogged huntracked
    refine ⟨untracked_of_absent made habsent, ?_, fun nowTimestampNs => ⟨?_, ?_⟩⟩
    · intro before hinitial other issue hsource
      have hbefore : identifySensorSource other ∉ (monitor.runEvents before).1.sources.keys := by
        obtain ⟨after, rfl⟩ := hinitial
        rw [hsource, mem_keys_iff made]
        rw [BoundedMachine.keys_run, opened_monitorMachine, packetSources,
          List.filterMap_append] at habsent
        exact fun hmem => habsent ((admitted_isPrefix _ _ _).subset hmem)
      unfold SourceHealthMonitor.observeIssue
      dsimp only
      rw [KeyedTable.lookup_eq_none_iff.mpr hbefore]
    · exact report_sources_eventsWithout made habsent nowTimestampNs
    · exact withoutUntracked_runEvents made habsent

/-- Room for one source: the first to send is tracked as if it were alone, the second leaves no
trace. -/
theorem source_isolation_full :
    let monitor : SourceHealthMonitor :=
      { config := { maxSources := 1 }, streamTracker := { config := { maxSources := 1 } } }
    let other : ReceivedPacket := { numbered 5 with source := { port := 9 } }
    let run := monitor.runEvents [.packet (numbered 10), .packet other,
      .issue other .kQueueDropped, .packet (numbered 14)]
    let alone := monitor.runEvents [.packet (numbered 10), .packet (numbered 14)]
    logOf (identifySensorSource (numbered 10)) run.2 = alone.2 ∧
      (alone.1.report 5).sources = (run.1.report 5).sources ∧
      (alone.1.report 5).streamMetrics.withoutUntracked =
        (run.1.report 5).streamMetrics.withoutUntracked := by
  intro monitor other run alone
  obtain ⟨hadmitted, _⟩ := source_isolation { maxSources := 1 } monitor rfl
    [.packet (numbered 10), .packet other, .issue other .kQueueDropped, .packet (numbered 14)]
    (identifySensorSource (numbered 10))
  obtain ⟨_, hrefused⟩ := source_isolation { maxSources := 1 } monitor rfl
    [.packet (numbered 10), .packet other, .issue other .kQueueDropped, .packet (numbered 14)]
    (identifySensorSource other)
  have hlogged : LogEntry.packet other (.untracked 5) ∈ run.2 := by decide
  obtain ⟨_, _, hreport⟩ := hrefused ⟨other, .untracked 5, hlogged, rfl, rfl⟩
  exact ⟨(hadmitted (by decide)).1, hreport 5⟩

end Driveflow.Runtime
