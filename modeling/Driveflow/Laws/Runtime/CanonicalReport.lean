import Driveflow.Laws.Runtime.SourceIsolation

/-!
# The report is canonical

The order in which sources are first heard decides the order of the tables, and how the calls of
different sources interleave decides the order in which the metrics are bumped. A report shows
neither: the snapshots are sorted by an injective key (`sourceKey_injective`), so one list only is
sorted (`eq_of_sorted`), and the tally of observations commutes (`tally_comm`), the saturating sum
included.
-/

namespace Driveflow.Runtime

open Library Net Protocol SourceHealthMonitor

/-! ## The sort key -/

/-- What the sort key reads of a snapshot. -/
def sourceKey (source : SensorSource) : String ×ₗ Nat ×ₗ String ×ₗ Nat ×ₗ Nat :=
  toLex (source.remoteEndpoint.address,
    toLex (source.remoteEndpoint.port.toNat,
      toLex (source.listenerEndpoint.address,
        toLex (source.listenerEndpoint.port.toNat, source.messageType.value.toNat))))

/-- **The key tells sources apart.** -/
theorem sourceKey_injective : Function.Injective sourceKey := by
  rintro ⟨⟨remoteAddress, remotePort⟩, ⟨listenerAddress, listenerPort⟩, ⟨messageType⟩⟩
    ⟨⟨remoteAddress', remotePort'⟩, ⟨listenerAddress', listenerPort'⟩, ⟨messageType'⟩⟩ h
  obtain ⟨hremoteAddress, h⟩ := Prod.mk.inj (toLex.injective h)
  obtain ⟨hremotePort, h⟩ := Prod.mk.inj (toLex.injective h)
  obtain ⟨hlistenerAddress, h⟩ := Prod.mk.inj (toLex.injective h)
  obtain ⟨hlistenerPort, hmessageType⟩ := Prod.mk.inj (toLex.injective h)
  have hremotePort := BitVec.eq_of_toNat_eq hremotePort
  have hlistenerPort := BitVec.eq_of_toNat_eq hlistenerPort
  have hmessageType := BitVec.eq_of_toNat_eq hmessageType
  dsimp only at hremoteAddress hremotePort hlistenerAddress hlistenerPort hmessageType
  rw [hremoteAddress, hremotePort, hlistenerAddress, hlistenerPort, hmessageType]

/-- Strictly increasing keys leave one order. -/
theorem eq_of_sorted {snapshots snapshots' : List SourceHealthSnapshot}
    (sorted : snapshots.Pairwise fun first second => sortKey first < sortKey second)
    (sorted' : snapshots'.Pairwise fun first second => sortKey first < sortKey second)
    (perm : snapshots.Perm snapshots') : snapshots = snapshots' :=
  List.Perm.eq_of_pairwise (fun _ _ _ _ hlt hgt => absurd hgt (lt_asymm hlt)) sorted sorted' perm

section Runs

variable {config : SourceHealthMonitorConfig} {monitor : SourceHealthMonitor}

/-- The sources of a report are the admitted ones. -/
theorem map_source_perm (made : SourceHealthMonitor.make config = .ok monitor)
    (events : List HealthEvent) (nowTimestampNs : BitVec 64) :
    (((monitor.runEvents events).1.report nowTimestampNs).sources.map
      SourceHealthSnapshot.source).Perm (admitted config.maxSources (packetSources events)) := by
  rw [report_sources_eq made]
  refine ((List.mergeSort_perm _ _).map SourceHealthSnapshot.source).trans (List.Perm.of_eq ?_)
  rw [List.map_map]
  exact List.map_id _

/-- **The snapshots of a report are strictly sorted.** -/
theorem report_sorted (made : SourceHealthMonitor.make config = .ok monitor)
    (events : List HealthEvent) (nowTimestampNs : BitVec 64) :
    ((monitor.runEvents events).1.report nowTimestampNs).sources.Pairwise
      fun first second => sortKey first < sortKey second := by
  have hdistinct := (map_source_perm made events nowTimestampNs).nodup_iff.mpr
    (nodup_admitted config.maxSources (packetSources events))
  rw [List.Nodup, List.pairwise_map] at hdistinct
  have hsorted : ((monitor.runEvents events).1.report nowTimestampNs).sources.Pairwise
      fun first second => decide (sortKey first ≤ sortKey second) = true := by
    rw [SourceHealthMonitor.report]
    refine List.pairwise_mergeSort (fun first second third hfirst hsecond => ?_)
      (fun first second => ?_) _
    · exact decide_eq_true (le_trans (of_decide_eq_true hfirst) (of_decide_eq_true hsecond))
    · rw [Bool.or_eq_true, decide_eq_true_iff, decide_eq_true_iff]
      exact le_total _ _
  refine (hsorted.and hdistinct).imp fun h => ?_
  exact lt_of_le_of_ne (of_decide_eq_true h.1) fun hkey => h.2 (sourceKey_injective hkey)

/-- **Whatever sorts the snapshots makes this report**, stable or not. -/
theorem report_sources_unique (made : SourceHealthMonitor.make config = .ok monitor)
    (events : List HealthEvent) (nowTimestampNs : BitVec 64)
    {snapshots : List SourceHealthSnapshot}
    (perm : snapshots.Perm ((monitor.runEvents events).1.report nowTimestampNs).sources)
    (sorted : snapshots.Pairwise fun first second => ¬ sortKey second < sortKey first) :
    snapshots = ((monitor.runEvents events).1.report nowTimestampNs).sources := by
  have hreport := report_sorted made events nowTimestampNs
  have hdistinct := (perm.map SourceHealthSnapshot.source).nodup_iff.mpr
    ((map_source_perm made events nowTimestampNs).nodup_iff.mpr
      (nodup_admitted config.maxSources (packetSources events)))
  rw [List.Nodup, List.pairwise_map] at hdistinct
  refine eq_of_sorted ((sorted.and hdistinct).imp fun ⟨hle, hne⟩ => ?_) hreport perm
  exact lt_of_le_of_ne (not_lt.mp hle) fun hkey => hne (sourceKey_injective hkey)

end Runs

/-! ## The tally -/

theorem saturatingAdd_right_comm (value first second : BitVec 64) :
    saturatingAdd (saturatingAdd value first) second =
      saturatingAdd (saturatingAdd value second) first := by
  refine BitVec.eq_of_toNat_eq ?_
  rw [toNat_saturatingAdd, toNat_saturatingAdd, toNat_saturatingAdd, toNat_saturatingAdd]
  omega

/-- **Observations may be tallied in any order.** -/
theorem tally_comm (metrics : SensorStreamMetrics) (first second : SequenceObservation) :
    (metrics.tally first).tally second = (metrics.tally second).tally first := by
  unfold SensorStreamMetrics.tally
  cases first.status with
  | kGap =>
    cases second.status with
    | kGap =>
      dsimp only
      rw [saturatingAdd_right_comm]
    | kFirst | kInOrder | kDuplicate | kReordered | kUntracked => rfl
  | kFirst | kInOrder | kDuplicate | kReordered | kUntracked => cases second.status <;> rfl

/-! ## Two interleavings -/

section Interleavings

variable {config : SourceHealthMonitorConfig} {monitor : SourceHealthMonitor}
  {events events' : List HealthEvent}

/-- The same sources send packets. -/
theorem mem_packetSources_of_own (own : ∀ source, eventsOf source events = eventsOf source events')
    (source : SensorSource) : source ∈ packetSources events ↔ source ∈ packetSources events' := by
  have hmem (events : List HealthEvent) :
      source ∈ packetSources (eventsOf source events) ↔ source ∈ packetSources events :=
    mem_packetSources_eventsOf.trans (and_iff_right rfl)
  rw [← hmem events, own, hmem]

/-- With few sources none is refused. -/
theorem notRefused_of_few (few : (packetSources events).toFinset.card ≤ config.maxSources) :
    admitted config.maxSources (packetSources events) = (packetSources events).eraseDups := by
  refine admitted_of_few (le_of_eq_of_le ?_ few)
  rw [← List.toFinset_card_of_nodup (nodup_eraseDups (packetSources events))]
  refine congrArg Finset.card (Finset.ext fun source => ?_)
  rw [List.mem_toFinset, List.mem_toFinset, List.mem_eraseDups]

/-- **The logs differ in their order only.** -/
theorem log_perm (made : SourceHealthMonitor.make config = .ok monitor)
    (notRefused : ∀ source, NotRefused config source events)
    (notRefused' : ∀ source, NotRefused config source events')
    (own : ∀ source, eventsOf source events = eventsOf source events') :
    (monitor.runEvents events).2.Perm (monitor.runEvents events').2 := by
  refine List.perm_iff_count.mpr fun entry => ?_
  have hcount (log : List LogEntry) :
      (logOf (identifySensorSource entry.subject) log).count entry = log.count entry :=
    List.count_filter (decide_eq_true rfl)
  rw [← hcount, ← hcount (monitor.runEvents events').2, logOf_runEvents made (notRefused _),
    logOf_runEvents made (notRefused' _), own]

/-- **The report is canonical.** Two runs of a monitor in which every source makes the same calls,
however they are interleaved, and in which there is room for every source that sends a packet, have
the same report at every time: its snapshots are strictly sorted by their keys, one for each source
that sent a packet. -/
theorem report_canonical (config : SourceHealthMonitorConfig) (monitor : SourceHealthMonitor)
    (made : SourceHealthMonitor.make config = .ok monitor) (events events' : List HealthEvent)
    (few : (packetSources events).toFinset.card ≤ config.maxSources)
    (own : ∀ source, eventsOf source events = eventsOf source events')
    (nowTimestampNs : BitVec 64) :
    let report := (monitor.runEvents events).1.report nowTimestampNs
    let report' := (monitor.runEvents events').1.report nowTimestampNs
    report = report' ∧
      report.sources.Pairwise (fun first second => sortKey first < sortKey second) ∧
      ∀ source, (snapshotsOf source report).length =
        if source ∈ packetSources events then 1 else 0 := by
  intro report report'
  have hadmitted := notRefused_of_few few
  have hmem := mem_packetSources_of_own own
  have hcard : (packetSources events').toFinset.card ≤ config.maxSources := by
    have hsame : (packetSources events).toFinset = (packetSources events').toFinset := by
      ext source
      rw [List.mem_toFinset, List.mem_toFinset, hmem]
    exact hsame ▸ few
  have hadmitted' := notRefused_of_few hcard
  have hnotRefused (source : SensorSource) : NotRefused config source events := by
    rw [NotRefused, hadmitted, List.mem_eraseDups]
    exact id
  have hnotRefused' (source : SensorSource) : NotRefused config source events' := by
    rw [NotRefused, hadmitted', List.mem_eraseDups]
    exact id
  have hsorted := report_sorted made events nowTimestampNs
  refine ⟨?_, hsorted, fun source => ?_⟩
  · have hmetrics : report.streamMetrics = report'.streamMetrics := by
      change (monitor.runEvents events).1.streamTracker.metrics =
        (monitor.runEvents events').1.streamTracker.metrics
      rw [streamMetrics_runEvents made, streamMetrics_runEvents made]
      exact ((log_perm made hnotRefused hnotRefused' own).filterMap _).foldl_eq'
        (fun first _ second _ metrics => tally_comm metrics first second) _
    have hsources : report.sources = report'.sources := by
      refine eq_of_sorted hsorted (report_sorted made events' nowTimestampNs) ?_
      change ((monitor.runEvents events).1.report nowTimestampNs).sources.Perm
        ((monitor.runEvents events').1.report nowTimestampNs).sources
      rw [report_sources_eq made, report_sources_eq made, hadmitted, hadmitted']
      refine (List.mergeSort_perm _ _).trans (List.Perm.trans ?_ (List.mergeSort_perm _ _).symm)
      have hsources :
          (packetSources events).eraseDups.Perm (packetSources events').eraseDups :=
        (List.perm_ext_iff_of_nodup (nodup_eraseDups _) (nodup_eraseDups _)).mpr fun source => by
          rw [List.mem_eraseDups, List.mem_eraseDups, hmem]
      refine (hsources.map _).trans (List.Perm.of_eq (List.map_congr_left fun source _ => ?_))
      have hlog : logOf source (monitor.runEvents events).2 =
          logOf source (monitor.runEvents events').2 := by
        rw [logOf_runEvents made (hnotRefused source), logOf_runEvents made (hnotRefused' source),
          own]
      change SourceState.makeSnapshot _ _ (replay ((logOf source _).dropWhile _)) _ =
        SourceState.makeSnapshot _ _ (replay ((logOf source _).dropWhile _)) _
      rw [hlog]
    exact congr (congrArg SourceHealthReport.mk hmetrics) hsources
  · change (snapshotsOf source ((monitor.runEvents events).1.report nowTimestampNs)).length = _
    rw [snapshotsOf_report made, hadmitted]
    refine Eq.trans ?_ (if_congr List.mem_eraseDups rfl rfl)
    split <;> rfl

/-- Two sources, heard in either order, with a gap of one of them before or after the other. -/
theorem report_canonical_swap :
    let monitor : SourceHealthMonitor :=
      { config := {}, streamTracker := { config := { maxSources := 256 } } }
    let other : ReceivedPacket := { numbered 5 with source := { port := 9 } }
    let run := monitor.runEvents [.packet (numbered 10), .packet (numbered 14), .packet other]
    let run' := monitor.runEvents [.packet other, .packet (numbered 10), .packet (numbered 14)]
    run.1.report 5 = run'.1.report 5 ∧
      (snapshotsOf (identifySensorSource other) (run.1.report 5)).length = 1 := by
  intro monitor other run run'
  have hown (source : SensorSource) :
      eventsOf source [.packet (numbered 10), .packet (numbered 14), .packet other] =
        eventsOf source [.packet other, .packet (numbered 10), .packet (numbered 14)] := by
    by_cases hother : identifySensorSource other = source
    · rw [← hother]
      decide
    · by_cases hnumbered : identifySensorSource (numbered 10) = source
      · rw [← hnumbered]
        decide
      · have hnumbered' : ¬ identifySensorSource (numbered 14) = source := hnumbered
        simp only [eventsOf, HealthEvent.subject, List.filter_cons, hother, hnumbered, hnumbered',
          decide_false, Bool.false_eq_true, if_false, List.filter_nil]
  obtain ⟨hreport, _, hone⟩ := report_canonical {} monitor rfl _ _ (by decide) hown 5
  exact ⟨hreport, (hone _).trans (if_pos (by decide))⟩

end Interleavings

end Driveflow.Runtime
