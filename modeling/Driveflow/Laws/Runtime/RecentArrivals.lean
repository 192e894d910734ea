import Driveflow.Laws.Runtime.PacketSide
import Driveflow.Library.Ring

/-!
# Recent arrivals and the rate

A packet is timed by the running maximum of the receive timestamps, and these maxima go into the
ring of its source. So the ring holds the last of them in turn (`Arrivals`), the newest is never
below the oldest, and the rate is what the two and the number of held maxima say.
-/

namespace Driveflow.Runtime

open Library Net Protocol SourceHealthMonitor

/-! ## Running maxima -/

/-- The highest of some timestamps. -/
def highest (timestamps : List (BitVec 64)) : Nat := (timestamps.map BitVec.toNat).foldl max 0

/-- The highest of the first, of the first two, and so on. -/
def runningMaxima (timestamps : List (BitVec 64)) : List Nat :=
  (List.range timestamps.length).map fun k => highest (timestamps.take (k + 1))

section Maxima

variable {timestamps : List (BitVec 64)}

/-- The next timestamp can only raise the highest one. -/
theorem highest_concat (timestamps : List (BitVec 64)) (timestamp : BitVec 64) :
    highest (timestamps ++ [timestamp]) = max (highest timestamps) timestamp.toNat := by
  rw [highest, List.map_append, List.foldl_append]
  rfl

/-- The next running maximum is the highest timestamp so far. -/
theorem runningMaxima_concat (timestamps : List (BitVec 64)) (timestamp : BitVec 64) :
    runningMaxima (timestamps ++ [timestamp]) =
      runningMaxima timestamps ++ [highest (timestamps ++ [timestamp])] := by
  have hwhole : (timestamps ++ [timestamp]).take (timestamps.length + 1) =
      timestamps ++ [timestamp] := List.take_of_length_le (Nat.le_of_eq List.length_append)
  rw [runningMaxima, List.length_append, List.length_singleton, List.range_succ, List.map_append,
    List.map_singleton, hwhole, runningMaxima]
  refine congrArg (· ++ _) (List.map_congr_left fun k hk => ?_)
  rw [List.take_append_of_le_length (Nat.succ_le_of_lt (List.mem_range.mp hk))]

/-- There is one running maximum for each timestamp. -/
theorem length_runningMaxima : (runningMaxima timestamps).length = timestamps.length := by
  rw [runningMaxima, List.length_map, List.length_range]

/-- The running maximum at an index is the highest timestamp up to it. -/
theorem getElem?_runningMaxima {k : Nat} (inside : k < timestamps.length) :
    (runningMaxima timestamps)[k]? = some (highest (timestamps.take (k + 1))) := by
  rw [runningMaxima, List.getElem?_map, List.getElem?_range inside]
  rfl

/-- Maxima only grow. -/
theorem highest_take_le (timestamps : List (BitVec 64)) (k : Nat) :
    highest (timestamps.take k) ≤ highest timestamps := by
  have hgrows (values : List Nat) (from_ : Nat) : from_ ≤ values.foldl max from_ := by
    induction values generalizing from_ with
    | nil => exact Nat.le_refl _
    | cons value values ih => exact (le_max_left from_ value).trans (ih _)
  have hsplit : timestamps = timestamps.take k ++ timestamps.drop k :=
    (List.take_append_drop k timestamps).symm
  have hwhole : highest timestamps =
      ((timestamps.drop k).map BitVec.toNat).foldl max (highest (timestamps.take k)) := by
    conv_lhs => rw [hsplit, highest, List.map_append, List.foldl_append]
    rfl
  rw [hwhole]
  exact hgrows _ _

end Maxima

/-! ## One record -/

/-- What of a record packets are timed by. -/
structure Timing where
  recentTimestamps : Vector (BitVec 64) kRecentTimestampCapacity
  recentTimestampCount : Nat
  nextTimestampIndex : Fin kRecentTimestampCapacity
  packetsReceived : BitVec 64
  firstReceiveTimestampNs : BitVec 64
  lastReceiveTimestampNs : BitVec 64

def SourceHealthMonitor.SourceState.timing (state : SourceState) : Timing where
  recentTimestamps := state.recentTimestamps
  recentTimestampCount := state.recentTimestampCount
  nextTimestampIndex := state.nextTimestampIndex
  packetsReceived := state.packetsReceived
  firstReceiveTimestampNs := state.firstReceiveTimestampNs
  lastReceiveTimestampNs := state.lastReceiveTimestampNs

/-- A packet at a time. -/
def Timing.receive (timing : Timing) (timestamp : BitVec 64) : Timing where
  recentTimestamps := timing.recentTimestamps.set timing.nextTimestampIndex timestamp
  recentTimestampCount := min (timing.recentTimestampCount + 1) kRecentTimestampCapacity
  nextTimestampIndex :=
    ⟨(timing.nextTimestampIndex + 1) % kRecentTimestampCapacity, Nat.mod_lt _ (Nat.succ_pos _)⟩
  packetsReceived := saturatingIncrement timing.packetsReceived
  firstReceiveTimestampNs :=
    if timing.packetsReceived = 0 then timestamp else timing.firstReceiveTimestampNs
  lastReceiveTimestampNs := timestamp

/-- A packet writes one timestamp, the running maximum. -/
theorem timing_recordPacket (state : SourceState) (packet : ReceivedPacket)
    (observation : SequenceObservation) :
    (state.recordPacket packet observation).timing =
      state.timing.receive (stdMax packet.receiveTimestampNs state.lastReceiveTimestampNs) := by
  have hlatency (state : SourceState) : (state.recordLatency packet).1.timing = state.timing := by
    unfold SourceState.recordLatency
    dsimp only
    split <;> rfl
  have hstatus (state : SourceState) (timestamp : BitVec 64) (packetHasIssue : Bool) :
      (state.recordStatus observation timestamp packetHasIssue).timing = state.timing := by
    unfold SourceState.recordStatus
    cases observation.status <;> cases packetHasIssue <;> rfl
  unfold SourceState.recordPacket
  dsimp only
  rw [hstatus, hlatency]
  unfold Timing.receive SourceState.recordRecentTimestamp SourceState.timing
  by_cases hfirst : state.packetsReceived = 0
  · simp only [hfirst, ↓reduceIte]
  · simp only [hfirst, ↓reduceIte]

/-- An issue writes no timestamp. -/
theorem timing_recordIssue (state : SourceState) (packet : ReceivedPacket)
    (issue : SourceHealthIssue) : (state.recordIssue packet issue).timing = state.timing := by
  cases issue <;> rfl

/-- The timing of a source after arrivals at these times. -/
structure Arrivals (timing : Timing) (timestamps : List (BitVec 64)) : Prop where
  received : timing.packetsReceived = 0 ↔ timestamps = []
  first : timestamps ≠ [] → timing.firstReceiveTimestampNs.toNat = highest (timestamps.take 1)
  last : timing.lastReceiveTimestampNs.toNat = highest timestamps
  ring : Ring.Holds (timing.recentTimestamps.map BitVec.toNat) timing.recentTimestampCount
    timing.nextTimestampIndex (runningMaxima timestamps)

/-- A new record has an empty ring. -/
theorem arrivals_start : Arrivals ({} : SourceState).timing [] where
  received := ⟨fun _ => rfl, fun _ => rfl⟩
  first h := absurd rfl h
  last := rfl
  ring := Ring.Holds.empty _ _ rfl

/-- **One more arrival.** -/
theorem Arrivals.receive {timing : Timing} {timestamps : List (BitVec 64)}
    (h : Arrivals timing timestamps) (timestamp : BitVec 64) :
    Arrivals (timing.receive (stdMax timestamp timing.lastReceiveTimestampNs))
      (timestamps ++ [timestamp]) := by
  have hnow : (stdMax timestamp timing.lastReceiveTimestampNs).toNat =
      highest (timestamps ++ [timestamp]) := by
    rw [toNat_stdMax, h.last, highest_concat]
    exact max_comm _ _
  constructor
  · refine ⟨fun hzero => ?_, fun hnil => absurd hnil (List.append_ne_nil_of_right_ne_nil _
      (List.cons_ne_nil _ _))⟩
    have hcount := toNat_saturatingIncrement timing.packetsReceived
    have hzero' : (saturatingIncrement timing.packetsReceived).toNat = 0 :=
      congrArg BitVec.toNat hzero
    omega
  · intro _
    unfold Timing.receive
    dsimp only
    split
    next hnone =>
      rw [hnow, h.received.mp hnone]
      rfl
    next hsome =>
      have hne : timestamps ≠ [] := fun hnil => hsome (h.received.mpr hnil)
      rw [h.first hne, List.take_append_of_le_length (List.length_pos_iff.mpr hne)]
  · exact hnow
  · have hpush := h.ring.push (highest (timestamps ++ [timestamp]))
    rw [← runningMaxima_concat, ← hnow, ← Vector.map_set] at hpush
    exact hpush

/-- The receive timestamps of a log. -/
def SourceLog.timestamps (log : List LogEntry) : List (BitVec 64) :=
  (packets log).map fun entry => entry.subject.receiveTimestampNs

/-- The ring of a replayed log holds the timestamps of its packets. -/
theorem arrivals_replay (log : List LogEntry) :
    Arrivals (replay log).timing (SourceLog.timestamps log) := by
  induction log using List.reverseRecOn with
  | nil => exact arrivals_start
  | append_singleton log entry ih =>
    rw [replay_append_singleton, SourceLog.timestamps, SourceLog.packets_append_singleton]
    cases entry with
    | packet packet observation =>
      have hpacket : (LogEntry.packet packet observation).isPacket = true := rfl
      rw [if_pos hpacket, List.map_append, LogEntry.record, timing_recordPacket]
      exact ih.receive packet.receiveTimestampNs
    | issue packet issue =>
      rw [LogEntry.record, timing_recordIssue]
      exact ih

/-! ## Runs -/

/-- The receive timestamps of the packets of a source, in the order of their observation. -/
def arrivalTimes (source : SensorSource) (events : List HealthEvent) : List (BitVec 64) :=
  ((observedPackets events).filter fun packet => identifySensorSource packet = source).map
    ReceivedPacket.receiveTimestampNs

/-- The log of a run has the packets of its events, in their order. -/
theorem map_subject_runEvents (monitor : SourceHealthMonitor) (events : List HealthEvent) :
    (monitor.runEvents events).2.map LogEntry.subject = events.map HealthEvent.subject := by
  induction events using List.reverseRecOn with
  | nil => rfl
  | append_singleton events event ih =>
    rw [runEvents_append_singleton, List.map_append, List.map_append, ih]
    cases event <;> rfl

/-- The packets in the log of a source are all its packets. -/
theorem timestamps_ownLog (monitor : SourceHealthMonitor) (source : SensorSource)
    (events : List HealthEvent) :
    SourceLog.timestamps (ownLog source (monitor.runEvents events).2) =
      arrivalTimes source events := by
  have hsubjects := map_subject_runEvents monitor ((observedPackets events).map .packet)
  rw [List.map_map, ← packets_runEvents] at hsubjects
  have hpackets : (observedPackets events).map (HealthEvent.subject ∘ HealthEvent.packet) =
      observedPackets events := List.map_id _
  rw [SourceLog.timestamps, packets_ownLog, arrivalTimes, ← hpackets, ← hsubjects, List.filter_map,
    List.map_map]
  rfl

/-! ## The rate -/

/-- Where `current_rate_hz` looks for the oldest timestamp. -/
def oldestIndex (state : SourceState) : Fin kRecentTimestampCapacity :=
  if state.recentTimestampCount < kRecentTimestampCapacity then ⟨0, kRecentTimestampCapacity_pos⟩
  else state.nextTimestampIndex

/-- The cell behind the next one is in the ring. -/
theorem newestIndex_lt (state : SourceState) :
    (state.nextTimestampIndex + kRecentTimestampCapacity - 1) % kRecentTimestampCapacity <
      kRecentTimestampCapacity :=
  Nat.mod_lt _ kRecentTimestampCapacity_pos

/-- And for the newest. -/
def newestIndex (state : SourceState) : Fin kRecentTimestampCapacity :=
  ⟨(state.nextTimestampIndex + kRecentTimestampCapacity - 1) % kRecentTimestampCapacity,
    newestIndex_lt state⟩

/-- The rate is counted from the oldest timestamp held to the newest. -/
theorem currentRateHz_eq (state : SourceState) :
    state.currentRateHz =
      if state.recentTimestampCount < 2 then 0
      else if state.recentTimestamps[newestIndex state] -
          state.recentTimestamps[oldestIndex state] = 0 then 0
      else ((state.recentTimestampCount - 1 : Nat) : ℚ) * kNanosecondsPerSecond /
        ((state.recentTimestamps[newestIndex state] -
          state.recentTimestamps[oldestIndex state]).toNat : ℚ) := rfl

/-- What the record of a source says of `n` arrivals, with `m k` the highest timestamp of the first
`k`. The last `c` of the `m k` are held. -/
structure RecentArrivals (state : SourceState) (m : Nat → Nat) (n c : Nat) : Prop where
  first : state.firstReceiveTimestampNs.toNat = m 1
  last : state.lastReceiveTimestampNs.toNat = m n
  count : state.recentTimestampCount = c
  ring : ∀ k, k < c →
    (state.recentTimestamps.map BitVec.toNat)[(oldestIndex state + k) % kRecentTimestampCapacity]? =
      some (m (n - c + 1 + k))
  oldest : state.recentTimestamps[oldestIndex state].toNat = m (n - c + 1)
  newest : state.recentTimestamps[newestIndex state].toNat = m n
  elapsed : m (n - c + 1) ≤ m n ∧
    (state.recentTimestamps[newestIndex state] -
      state.recentTimestamps[oldestIndex state]).toNat = m n - m (n - c + 1)
  rate : state.currentRateHz =
    if c < 2 ∨ m n - m (n - c + 1) = 0 then 0
    else ((c - 1 : Nat) : ℚ) * 10 ^ 9 / ((m n - m (n - c + 1) : Nat) : ℚ)

/-- The ring of a record that was written to holds the latest running maxima in the cells that the
indices compute, and the rate is read from them. -/
theorem Arrivals.recentArrivals {state : SourceState} {timestamps : List (BitVec 64)}
    (h : Arrivals state.timing timestamps) (some_ : timestamps ≠ []) :
    RecentArrivals state (fun k => highest (timestamps.take k)) timestamps.length
      (min timestamps.length 64) := by
  have hpositive : 0 < timestamps.length := List.length_pos_iff.mpr some_
  have hwhole : timestamps.take timestamps.length = timestamps := List.take_length
  have hcount : state.recentTimestampCount = min timestamps.length 64 := by
    have hcount := h.ring.count_eq
    rwa [length_runningMaxima] at hcount
  have hring (k : Nat) (hk : k < min timestamps.length 64) :
      (state.recentTimestamps.map BitVec.toNat)[(oldestIndex state + k) %
          kRecentTimestampCapacity]? =
        some (highest (timestamps.take
          (timestamps.length - min timestamps.length 64 + 1 + k))) := by
    have hcell := h.ring.fromOldest (hk.trans_eq hcount.symm)
    have hindex : Ring.oldest state.timing.recentTimestampCount state.timing.nextTimestampIndex =
        (oldestIndex state).val := by
      rw [oldestIndex, apply_ite Fin.val]
      rfl
    have htimingCount : state.timing.recentTimestampCount = min timestamps.length 64 := hcount
    rw [hindex, htimingCount, length_runningMaxima, getElem?_runningMaxima (by omega)] at hcell
    refine hcell.trans ?_
    rw [Nat.add_right_comm]
  have hat (index : Fin kRecentTimestampCapacity) (value : Nat)
      (hvalue : (state.recentTimestamps.map BitVec.toNat)[index.val]? = some value) :
      state.recentTimestamps[index].toNat = value := by
    rw [Vector.getElem?_map, Vector.getElem?_eq_getElem index.isLt] at hvalue
    exact Option.some.inj hvalue
  have holdest : state.recentTimestamps[oldestIndex state].toNat =
      highest (timestamps.take (timestamps.length - min timestamps.length 64 + 1)) := by
    have hzero := hring 0 (by omega)
    rw [Nat.add_zero, Nat.add_zero, Nat.mod_eq_of_lt (oldestIndex state).isLt] at hzero
    exact hat _ _ hzero
  have hnewest : state.recentTimestamps[newestIndex state].toNat = highest timestamps := by
    have hcell := h.ring.newest (length_runningMaxima.symm ▸ hpositive)
    rw [length_runningMaxima, getElem?_runningMaxima (Nat.sub_lt hpositive Nat.one_pos),
      Nat.sub_add_cancel hpositive, hwhole] at hcell
    exact hat (newestIndex state) _ hcell
  have hle := highest_take_le timestamps (timestamps.length - min timestamps.length 64 + 1)
  have helapsed : (state.recentTimestamps[newestIndex state] -
      state.recentTimestamps[oldestIndex state]).toNat =
      highest timestamps -
        highest (timestamps.take (timestamps.length - min timestamps.length 64 + 1)) := by
    rw [BitVec.toNat_sub_of_le, hnewest, holdest]
    rw [BitVec.le_def, hnewest, holdest]
    exact hle
  exact {
    first := h.first some_
    last := by
      rw [hwhole]
      exact h.last
    count := hcount
    ring := hring
    oldest := holdest
    newest := by
      rw [hwhole]
      exact hnewest
    elapsed := by
      rw [hwhole]
      exact ⟨hle, helapsed⟩
    rate := by
      rw [currentRateHz_eq, hcount, helapsed, hwhole]
      by_cases hfew : min timestamps.length 64 < 2
      · rw [if_pos hfew, if_pos (.inl hfew)]
      · rw [if_neg hfew]
        refine if_congr ?_ rfl ?_
        · rw [or_iff_right hfew, ← helapsed]
          exact BitVec.toNat_inj.symm
        · rw [kNanosecondsPerSecond]
          norm_num }

/-- **The recent-arrival ring and the rate.** After any run of packets and issues, the record of an
admitted source and its snapshot are what the receive timestamps of its packets say, whatever these
are. -/
theorem recent_arrivals (config : SourceHealthMonitorConfig) (monitor : SourceHealthMonitor)
    (made : SourceHealthMonitor.make config = .ok monitor) (events : List HealthEvent)
    (source : SensorSource) (nowTimestampNs : BitVec 64)
    (isAdmitted : source ∈ admitted config.maxSources (packetSources events)) :
    ∃ state, (monitor.runEvents events).1.sources.lookup source = some state ∧
      RecentArrivals state (fun k => highest ((arrivalTimes source events).take k))
        (arrivalTimes source events).length (min (arrivalTimes source events).length 64) ∧
      ∀ snapshot ∈ ((monitor.runEvents events).1.report nowTimestampNs).sources,
        snapshot.source = source →
          snapshot.firstReceiveTimestampNs = state.firstReceiveTimestampNs ∧
            snapshot.lastReceiveTimestampNs = state.lastReceiveTimestampNs ∧
            snapshot.currentRateHz = state.currentRateHz := by
  obtain ⟨_, hlookup⟩ := lookup_of_admitted made events isAdmitted
  obtain ⟨_, _, honly⟩ := report_of_admitted made events nowTimestampNs isAdmitted
  have harrivals := arrivals_replay (ownLog source (monitor.runEvents events).2)
  rw [timestamps_ownLog] at harrivals
  refine ⟨_, hlookup, harrivals.recentArrivals ?_, fun snapshot hmem hsource => ?_⟩
  · have hcame := mem_of_mem_admitted isAdmitted
    rw [← map_observedPackets] at hcame
    obtain ⟨packet, hpacket, hidentity⟩ := List.mem_map.mp hcame
    exact List.ne_nil_of_mem (List.mem_map_of_mem (List.mem_filter.mpr
      ⟨hpacket, decide_eq_true hidentity⟩))
  · rw [honly snapshot hmem hsource]
    exact ⟨rfl, rfl, rfl⟩

/-- Three packets, of which the second is timed before the first. -/
theorem recent_arrivals_decreasing :
    let monitor : SourceHealthMonitor :=
      { config := {}, streamTracker := { config := { maxSources := 256 } } }
    let events := [5, 3, 9].map fun timestamp =>
      HealthEvent.packet { numbered 1 with receiveTimestampNs := timestamp }
    ∃ state, (monitor.runEvents events).1.sources.lookup (identifySensorSource (numbered 1)) =
        some state ∧
      RecentArrivals state (fun k => highest ([5, 3, 9].take k)) 3 3 ∧
      state.currentRateHz = 500000000 := by
  intro monitor events
  obtain ⟨state, hlookup, harrivals, _⟩ := recent_arrivals {} monitor rfl events
    (identifySensorSource (numbered 1)) 9 (by decide)
  refine ⟨state, hlookup, harrivals, harrivals.rate.trans ?_⟩
  have htimes : arrivalTimes (identifySensorSource (numbered 1)) events = [5, 3, 9] := by decide
  rw [htimes]
  decide +kernel

end Driveflow.Runtime
