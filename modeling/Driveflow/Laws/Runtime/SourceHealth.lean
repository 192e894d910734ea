import Driveflow.Laws.Runtime.SequenceTracking
import Driveflow.Runtime.SourceHealthMonitor

/-!
# Source health against the full event log

A health record is a handful of words that two entry points clamp, reset and saturate. The
specification keeps everything: a source's log is the list of its packets, each with the status it
was given, and of its issues, and the status of the source is read off the whole log (`statusOf`).

`Logged` relates a record to a log; a packet and an issue preserve it (`Logged.recordPacket`,
`Logged.recordIssue`), and the rules then agree at every report time (`Logged.evaluateStatus_eq`).
The two tables of a monitor are one bounded machine (`monitorMachine`), so every record of every
reachable monitor is logged (`runEvents_record`).
-/

namespace Driveflow.Runtime

open Library Net Protocol SourceHealthMonitor

/-! ## Logs -/

/-- One call on a monitor, with what a packet was observed as. -/
inductive LogEntry where
  | packet (packet : ReceivedPacket) (observation : SequenceObservation)
  | issue (packet : ReceivedPacket) (issue : SourceHealthIssue)
  deriving DecidableEq

namespace LogEntry

/-- The packet the call was about. -/
def subject : LogEntry → ReceivedPacket
  | .packet received _ => received
  | .issue received _ => received

def isPacket : LogEntry → Bool
  | .packet _ _ => true
  | .issue _ _ => false

/-- An issue event: a gap, a duplicate, a late or an anomalous packet, or a reported issue. Any
other packet is normal. -/
def isIssue : LogEntry → Bool
  | .packet received observation =>
    observation.status = .kGap ∨ observation.status = .kDuplicate ∨
      observation.status = .kReordered ∨
      received.packet.header.sourceTimestampNs.toNat > received.receiveTimestampNs.toNat
  | .issue _ _ => true

end LogEntry

namespace SourceLog

/-- The packets of a log. -/
def packets (log : List LogEntry) : List LogEntry := log.filter LogEntry.isPacket

/-- The running maximum of the receive timestamps, at the end of the log. -/
def last (log : List LogEntry) : Nat :=
  ((packets log).map fun entry => entry.subject.receiveTimestampNs.toNat).foldl max 0

/-- The time of the event that ends a log: a packet's is the running maximum at that packet, a
reported issue's is its packet's receive timestamp. -/
def timeOf (log : List LogEntry) : LogEntry → Nat
  | .packet _ _ => last log
  | .issue packet _ => packet.receiveTimestampNs.toNat

/-- The times of the issue events. -/
def issueTimes (log : List LogEntry) : List Nat :=
  log.inits.filterMap fun before =>
    match before.getLast? with
    | none => none
    | some entry => if entry.isIssue then some (timeOf before entry) else none

/-- How many normal packets came after the last issue event. -/
def normalSinceIssue (log : List LogEntry) : Nat :=
  (log.rtakeWhile fun entry => !entry.isIssue).length

/-- The documented rules, over the whole log. -/
def statusOf (config : SourceHealthMonitorConfig) (log : List LogEntry)
    (nowTimestampNs : BitVec 64) : SourceHealthStatus :=
  let silence : Int := nowTimestampNs.toNat - last log
  let sinceIssue : Int := nowTimestampNs.toNat - (issueTimes log).foldl max 0
  if silence ≥ config.offlineAfter.toInt then .kOffline
  else if silence ≥ config.degradedAfter.toInt ∨
      issueTimes log ≠ [] ∧ (sinceIssue < config.recoveryAfter.toInt ∨
        normalSinceIssue log < config.healthyAfterPackets.toNat) then .kDegraded
  else if (packets log).length < config.healthyAfterPackets.toNat then .kUnknown
  else .kHealthy

variable (log : List LogEntry) (entry : LogEntry)

/-- An entry joins the packets of the log if it is one. -/
theorem packets_append_singleton :
    packets (log ++ [entry]) = if entry.isPacket then packets log ++ [entry] else packets log := by
  rw [packets, List.filter_append, List.filter_singleton]
  cases entry.isPacket with
  | true => rfl
  | false => exact List.append_nil _

/-- A packet can only raise the latest receive time. -/
theorem last_append_singleton :
    last (log ++ [entry]) =
      if entry.isPacket then max (last log) entry.subject.receiveTimestampNs.toNat
      else last log := by
  rw [last, packets_append_singleton]
  cases entry.isPacket with
  | true => rw [if_pos rfl, if_pos rfl, List.map_append, List.foldl_append]; rfl
  | false => rfl

/-- An event that is an issue adds its own time. -/
theorem issueTimes_append_singleton :
    issueTimes (log ++ [entry]) =
      if entry.isIssue then issueTimes log ++ [timeOf (log ++ [entry]) entry]
      else issueTimes log := by
  rw [issueTimes, List.inits_append, List.filterMap_append]
  change issueTimes log ++ List.filterMap _ [log ++ [entry]] = _
  rw [List.filterMap_cons, List.filterMap_nil, List.getLast?_concat]
  dsimp only
  cases entry.isIssue with
  | true => rfl
  | false => exact List.append_nil _

/-- An issue ends the run of normal packets, and any other entry lengthens it. -/
theorem normalSinceIssue_append_singleton :
    normalSinceIssue (log ++ [entry]) =
      if entry.isIssue then 0 else normalSinceIssue log + 1 := by
  rw [normalSinceIssue, List.rtakeWhile_concat]
  cases entry.isIssue with
  | true => rfl
  | false => exact List.length_append

end SourceLog

/-! ## One record -/

/-- The increment stops at the largest 64-bit value. -/
theorem toNat_saturatingIncrement (value : BitVec 64) :
    (saturatingIncrement value).toNat = min (value.toNat + 1) (2 ^ 64 - 1) := by
  have hlt := value.isLt
  rw [saturatingIncrement]
  split
  next h =>
    have hne : value.toNat ≠ 2 ^ 64 - 1 := fun heq => h (BitVec.eq_of_toNat_eq heq)
    rw [BitVec.toNat_add]
    have : (1 : BitVec 64).toNat = 1 := rfl
    omega
  next h =>
    have heq : value = BitVec.allOnes 64 := not_not.mp h
    rw [heq]
    rfl

/-- `std::max` compares the words as numbers. -/
theorem toNat_stdMax (a b : BitVec 64) : (stdMax a b).toNat = max a.toNat b.toNat := by
  rw [stdMax]
  split
  next h => exact (max_eq_right (Nat.le_of_lt (BitVec.lt_def.mp h))).symm
  next h => exact (max_eq_left (Nat.le_of_not_lt fun hlt => h (BitVec.lt_def.mpr hlt))).symm

/-- The elapsed time is the truncated difference. -/
theorem toNat_elapsedOrZero (now before : BitVec 64) :
    (elapsedOrZero now before).toNat = now.toNat - before.toNat := by
  rw [elapsedOrZero]
  split
  next h => exact BitVec.toNat_sub_of_le h
  next h =>
    have hlt : now.toNat < before.toNat := Nat.lt_of_not_le fun hle => h hle
    exact (Nat.sub_eq_zero_of_le (Nat.le_of_lt hlt)).symm

/-- The fields a status is read from. -/
structure Vitals where
  lastReceiveTimestampNs : BitVec 64
  packetsReceived : BitVec 64
  lastIssueTimestampNs : BitVec 64
  healthyPacketsSinceIssue : BitVec 64
  issueSeen : Bool

namespace Vitals

/-- The part of a record that the rules read. -/
def ofState (state : SourceState) : Vitals :=
  { lastReceiveTimestampNs := state.lastReceiveTimestampNs
    packetsReceived := state.packetsReceived
    lastIssueTimestampNs := state.lastIssueTimestampNs
    healthyPacketsSinceIssue := state.healthyPacketsSinceIssue
    issueSeen := state.issueSeen }

/-- An issue at a time. -/
def mark (vitals : Vitals) (timestamp : BitVec 64) : Vitals :=
  { vitals with
    issueSeen := true
    lastIssueTimestampNs := stdMax vitals.lastIssueTimestampNs timestamp
    healthyPacketsSinceIssue := 0 }

/-- A packet at a time, before it is judged. -/
def receive (vitals : Vitals) (timestamp : BitVec 64) : Vitals :=
  { vitals with
    lastReceiveTimestampNs := timestamp
    packetsReceived := saturatingIncrement vitals.packetsReceived }

/-- A normal packet. -/
def reassure (vitals : Vitals) : Vitals :=
  { vitals with
    healthyPacketsSinceIssue := saturatingIncrement vitals.healthyPacketsSinceIssue }

end Vitals

/-- Recording a latency leaves the vitals and reports a source clock ahead of the receiver. -/
theorem recordLatency_spec (state : SourceState) (packet : ReceivedPacket) :
    Vitals.ofState (state.recordLatency packet).1 = Vitals.ofState state ∧
      (state.recordLatency packet).2 = decide (packet.packet.header.sourceTimestampNs.toNat >
        packet.receiveTimestampNs.toNat) := by
  rw [SourceState.recordLatency]
  dsimp only
  split
  next h => exact ⟨rfl, (decide_eq_true (BitVec.lt_def.mp h)).symm⟩
  next h => exact ⟨rfl, (decide_eq_false fun hlt => h (BitVec.lt_def.mpr hlt)).symm⟩

/-- An observation marks the vitals if it or its packet has an issue, and reassures them
otherwise. -/
theorem recordStatus_spec (state : SourceState) (observation : SequenceObservation)
    (receiveTimestamp : BitVec 64) (packetHasIssue : Bool)
    (tracked : observation.status ≠ .kUntracked) :
    Vitals.ofState (state.recordStatus observation receiveTimestamp packetHasIssue) =
      if observation.status = .kGap ∨ observation.status = .kDuplicate ∨
          observation.status = .kReordered ∨ packetHasIssue = true then
        (Vitals.ofState state).mark receiveTimestamp
      else (Vitals.ofState state).reassure := by
  unfold SourceState.recordStatus
  dsimp only
  cases hstatus : observation.status with
  | kUntracked => exact absurd hstatus tracked
  | kFirst | kInOrder =>
    simp only [reduceCtorEq, false_or]
    split <;> rfl
  | kGap | kDuplicate | kReordered =>
    simp only [reduceCtorEq, true_or, or_true, ↓reduceIte]
    rfl

/-- **What a packet does to the fields a status is read from.** -/
theorem recordPacket_spec (state : SourceState) (packet : ReceivedPacket)
    (observation : SequenceObservation) (tracked : observation.status ≠ .kUntracked) :
    let receiveTimestamp := stdMax packet.receiveTimestampNs state.lastReceiveTimestampNs
    Vitals.ofState (state.recordPacket packet observation) =
      if (LogEntry.packet packet observation).isIssue then
        ((Vitals.ofState state).receive receiveTimestamp).mark receiveTimestamp
      else ((Vitals.ofState state).receive receiveTimestamp).reassure := by
  intro receiveTimestamp
  obtain ⟨received, hreceived, hrecord⟩ : ∃ received : SourceState,
      Vitals.ofState received = (Vitals.ofState state).receive receiveTimestamp ∧
      state.recordPacket packet observation =
        (received.recordLatency packet).1.recordStatus observation receiveTimestamp
          (received.recordLatency packet).2 := by
    refine ⟨_, ?_, rfl⟩
    split <;> rfl
  obtain ⟨hvitals, hanomaly⟩ := recordLatency_spec received packet
  rw [hrecord, recordStatus_spec _ _ _ _ tracked, hvitals, hreceived, hanomaly, LogEntry.isIssue]
  simp only [decide_eq_true_eq]

/-- What an issue does to them. -/
theorem recordIssue_spec (state : SourceState) (packet : ReceivedPacket)
    (issue : SourceHealthIssue) :
    Vitals.ofState (state.recordIssue packet issue) =
      (Vitals.ofState state).mark packet.receiveTimestampNs := by
  cases issue <;> rfl

/-- The fields say what the log says, up to the saturation of the counters. -/
structure Vitals.Logged (vitals : Vitals) (log : List LogEntry) : Prop where
  last : vitals.lastReceiveTimestampNs.toNat = SourceLog.last log
  packets : vitals.packetsReceived.toNat = min (SourceLog.packets log).length (2 ^ 64 - 1)
  issueSeen : vitals.issueSeen = true ↔ SourceLog.issueTimes log ≠ []
  lastIssue : vitals.lastIssueTimestampNs.toNat = (SourceLog.issueTimes log).foldl max 0
  normal : vitals.healthyPacketsSinceIssue.toNat =
    min (SourceLog.normalSinceIssue log) (2 ^ 64 - 1)

namespace Vitals.Logged

variable {vitals : Vitals} {log : List LogEntry}

/-- A fresh record has an empty log. -/
theorem nil : (Vitals.ofState {}).Logged [] where
  last := rfl
  packets := rfl
  issueSeen := ⟨fun h => absurd h Bool.false_ne_true, fun h => absurd rfl h⟩
  lastIssue := rfl
  normal := rfl

/-- An issue event marks the record at its time. -/
private theorem mark_aux {entry : LogEntry} {timestamp : BitVec 64}
    (issue : entry.isIssue = true)
    (time : timestamp.toNat = SourceLog.timeOf (log ++ [entry]) entry)
    (last : vitals.lastReceiveTimestampNs.toNat = SourceLog.last (log ++ [entry]))
    (packets : vitals.packetsReceived.toNat =
      min (SourceLog.packets (log ++ [entry])).length (2 ^ 64 - 1))
    (lastIssue : vitals.lastIssueTimestampNs.toNat = (SourceLog.issueTimes log).foldl max 0) :
    (vitals.mark timestamp).Logged (log ++ [entry]) where
  last := last
  packets := packets
  issueSeen := by
    rw [SourceLog.issueTimes_append_singleton, if_pos issue]
    exact ⟨fun _ => List.append_ne_nil_of_right_ne_nil _ (List.cons_ne_nil _ _), fun _ => rfl⟩
  lastIssue := by
    rw [SourceLog.issueTimes_append_singleton, if_pos issue, List.foldl_append]
    change (stdMax vitals.lastIssueTimestampNs timestamp).toNat = max _ _
    rw [toNat_stdMax, lastIssue, time]
  normal := by
    rw [SourceLog.normalSinceIssue_append_singleton, if_pos issue]
    rfl

/-- The receive time of a packet is the running maximum at it. -/
theorem toNat_receiveTimestamp (h : vitals.Logged log) (received : ReceivedPacket)
    (observation : SequenceObservation) :
    (stdMax received.receiveTimestampNs vitals.lastReceiveTimestampNs).toNat =
      SourceLog.last (log ++ [.packet received observation]) := by
  rw [toNat_stdMax, h.last, SourceLog.last_append_singleton]
  exact max_comm _ _

/-- A packet is one more packet of the log. -/
private theorem length_packets (received : ReceivedPacket) (observation : SequenceObservation) :
    (SourceLog.packets (log ++ [.packet received observation])).length =
      (SourceLog.packets log).length + 1 := by
  rw [SourceLog.packets_append_singleton]
  exact List.length_append

/-- The packet counter is the number of packets of the log, up to its largest value. -/
private theorem receive_packets (h : vitals.Logged log) (timestamp : BitVec 64)
    (received : ReceivedPacket) (observation : SequenceObservation) :
    (vitals.receive timestamp).packetsReceived.toNat =
      min (SourceLog.packets (log ++ [.packet received observation])).length (2 ^ 64 - 1) := by
  rw [length_packets]
  change (saturatingIncrement vitals.packetsReceived).toNat = _
  rw [toNat_saturatingIncrement, h.packets]
  omega

/-- **A packet keeps the record logged.** -/
theorem recordPacket {state : SourceState} (h : (Vitals.ofState state).Logged log)
    (received : ReceivedPacket) {observation : SequenceObservation}
    (tracked : observation.status ≠ .kUntracked) :
    (Vitals.ofState (state.recordPacket received observation)).Logged
      (log ++ [.packet received observation]) := by
  have htime := h.toNat_receiveTimestamp received observation
  rw [recordPacket_spec state received observation tracked]
  split
  next hissue =>
    exact mark_aux hissue htime htime (receive_packets h _ _ _) h.lastIssue
  next hnormal =>
    have hnone := SourceLog.issueTimes_append_singleton log (.packet received observation)
    rw [if_neg hnormal] at hnone
    constructor
    · exact htime
    · exact receive_packets h
        (stdMax received.receiveTimestampNs state.lastReceiveTimestampNs) _ _
    · rw [hnone]
      exact h.issueSeen
    · rw [hnone]
      exact h.lastIssue
    · rw [SourceLog.normalSinceIssue_append_singleton, if_neg hnormal]
      change (saturatingIncrement state.healthyPacketsSinceIssue).toNat = _
      have hnormal := h.normal
      change state.healthyPacketsSinceIssue.toNat = _ at hnormal
      rw [toNat_saturatingIncrement, hnormal]
      omega

/-- **An issue keeps the record logged.** -/
theorem recordIssue {state : SourceState} (h : (Vitals.ofState state).Logged log)
    (received : ReceivedPacket) (issue : SourceHealthIssue) :
    (Vitals.ofState (state.recordIssue received issue)).Logged
      (log ++ [.issue received issue]) := by
  rw [recordIssue_spec]
  refine mark_aux rfl rfl ?_ ?_ h.lastIssue
  · rw [SourceLog.last_append_singleton]
    exact h.last
  · rw [SourceLog.packets_append_singleton]
    exact h.packets

end Vitals.Logged

/-! ## Replaying a log -/

/-- What one call does to the record of its source. -/
def LogEntry.record (state : SourceState) : LogEntry → SourceState
  | .packet received observation => state.recordPacket received observation
  | .issue received kind => state.recordIssue received kind

/-- The record that a log leads to. -/
def replay (log : List LogEntry) : SourceState := log.foldl LogEntry.record {}

/-- The last entry of a log is recorded last. -/
theorem replay_append_singleton (log : List LogEntry) (entry : LogEntry) :
    replay (log ++ [entry]) = entry.record (replay log) := by
  rw [replay, List.foldl_append]
  rfl

/-- No packet of the log was refused a record. -/
def Tracked (log : List LogEntry) : Prop :=
  ∀ received observation, .packet received observation ∈ log → observation.status ≠ .kUntracked

/-- There is no untracked packet in the empty log. -/
theorem Tracked.nil : Tracked [] := fun _ _ h => absurd h List.not_mem_nil

/-- A tracked packet keeps the log tracked. -/
theorem Tracked.append_packet {log : List LogEntry} (h : Tracked log) (received : ReceivedPacket)
    {observation : SequenceObservation} (tracked : observation.status ≠ .kUntracked) :
    Tracked (log ++ [.packet received observation]) := by
  intro other observed hmem
  rcases List.mem_append.mp hmem with hmem | hmem
  · exact h other observed hmem
  · cases List.mem_singleton.mp hmem
    exact tracked

/-- An issue keeps the log tracked, since it brings no observation. -/
theorem Tracked.append_issue {log : List LogEntry} (h : Tracked log) (received : ReceivedPacket)
    (issue : SourceHealthIssue) : Tracked (log ++ [.issue received issue]) := by
  intro other observed hmem
  rcases List.mem_append.mp hmem with hmem | hmem
  · exact h other observed hmem
  · cases List.mem_singleton.mp hmem

/-- **The record a log leads to is logged by it.** -/
theorem logged_replay {log : List LogEntry} (tracked : Tracked log) :
    (Vitals.ofState (replay log)).Logged log := by
  induction log using List.reverseRecOn with
  | nil => exact Vitals.Logged.nil
  | append_singleton log entry ih =>
    have hlog := ih fun received observation hmem =>
      tracked received observation (List.mem_append_left _ hmem)
    rw [replay_append_singleton]
    cases entry with
    | packet received observation =>
      exact hlog.recordPacket received
        (tracked received observation (List.mem_append_right _ List.mem_cons_self))
    | issue received issue => exact hlog.recordIssue received issue

/-! ## The rules -/

/-- What the constructor guarantees of a configuration. -/
theorem validateConfig_eq_ok {config valid : SourceHealthMonitorConfig}
    (h : validateConfig config = .ok valid) :
    valid = config ∧ config.maxSources ≠ 0 ∧ config.healthyAfterPackets ≠ 0 ∧
      0 < config.degradedAfter.toInt ∧ config.degradedAfter.toInt < config.offlineAfter.toInt ∧
      0 < config.recoveryAfter.toInt := by
  rw [validateConfig] at h
  split at h
  · cases h
  · split at h
    · cases h
    · split at h
      · cases h
      · split at h
        · cases h
        · split at h
          · cases h
          · cases h
            refine ⟨rfl, ?_, ?_, ?_, ?_, ?_⟩ <;> first | assumption | omega

/-- A positive duration is its own unsigned count. -/
theorem toNat_durationNs {duration : BitVec 64} (h : 0 < duration.toInt) :
    ((durationNs duration).toNat : Int) = duration.toInt := by
  have hcond := BitVec.toInt_eq_toNat_cond duration
  have hlt := duration.isLt
  rw [durationNs]
  split at hcond <;> omega

/-- **The rules read off a logged record are the rules over its log.** -/
theorem Vitals.Logged.evaluateStatus_eq {config : SourceHealthMonitorConfig} {state : SourceState}
    {log : List LogEntry} (h : (Vitals.ofState state).Logged log)
    (accepted : validateConfig config = .ok config) (nowTimestampNs : BitVec 64) :
    state.evaluateStatus config nowTimestampNs =
      SourceLog.statusOf config log nowTimestampNs := by
  obtain ⟨_, _, _, hdegraded, hoffline, hrecovery⟩ := validateConfig_eq_ok accepted
  -- each comparison of words is the comparison of the numbers they stand for
  have hlast : state.lastReceiveTimestampNs.toNat = _ := h.last
  have hissue : state.lastIssueTimestampNs.toNat = _ := h.lastIssue
  have hpackets : state.packetsReceived.toNat = _ := h.packets
  have hnormal : state.healthyPacketsSinceIssue.toNat = _ := h.normal
  have hseen : state.issueSeen = true ↔ _ := h.issueSeen
  have hevidence := config.healthyAfterPackets.isLt
  have silence {duration : BitVec 64} (positive : 0 < duration.toInt) :
      elapsedOrZero nowTimestampNs state.lastReceiveTimestampNs ≥ durationNs duration ↔
        (nowTimestampNs.toNat - SourceLog.last log : Int) ≥ duration.toInt := by
    rw [ge_iff_le, BitVec.le_def, toNat_elapsedOrZero, hlast, ← toNat_durationNs positive]
    have hpos := toNat_durationNs positive
    omega
  have recovering : elapsedOrZero nowTimestampNs state.lastIssueTimestampNs <
      durationNs config.recoveryAfter ↔
        (nowTimestampNs.toNat - (SourceLog.issueTimes log).foldl max 0 : Int) <
          config.recoveryAfter.toInt := by
    rw [BitVec.lt_def, toNat_elapsedOrZero, hissue, ← toNat_durationNs hrecovery]
    have hpos := toNat_durationNs hrecovery
    omega
  have unproven : state.healthyPacketsSinceIssue < config.healthyAfterPackets ↔
      SourceLog.normalSinceIssue log < config.healthyAfterPackets.toNat := by
    rw [BitVec.lt_def, hnormal]
    omega
  have unknown : state.packetsReceived < config.healthyAfterPackets ↔
      (SourceLog.packets log).length < config.healthyAfterPackets.toNat := by
    rw [BitVec.lt_def, hpackets]
    omega
  unfold SourceState.evaluateStatus SourceLog.statusOf
  dsimp only
  refine if_congr (silence (Int.lt_trans hdegraded hoffline)) rfl ?_
  by_cases hsilent : (nowTimestampNs.toNat - SourceLog.last log : Int) ≥
      config.degradedAfter.toInt
  · rw [if_pos ((silence hdegraded).mpr hsilent), if_pos (Or.inl hsilent)]
  · rw [if_neg fun h => hsilent ((silence hdegraded).mp h)]
    refine if_congr ?_ rfl (if_congr unknown rfl rfl)
    rw [or_iff_right hsilent, hseen, recovering, unproven]

/-! ## Runs of a monitor -/

/-- A call on a monitor. -/
inductive HealthEvent where
  | packet (packet : ReceivedPacket)
  | issue (packet : ReceivedPacket) (issue : SourceHealthIssue)
  deriving DecidableEq

/-- The packet the call is about. -/
def HealthEvent.subject : HealthEvent → ReceivedPacket
  | .packet received => received
  | .issue received _ => received

/-- One call, and its entry in the log. -/
def SourceHealthMonitor.apply (monitor : SourceHealthMonitor) (event : HealthEvent) :
    SourceHealthMonitor × LogEntry :=
  match event with
  | .packet packet =>
    let (monitor, observation) := monitor.observePacket packet
    (monitor, .packet packet observation)
  | .issue packet issue => (monitor.observeIssue packet issue, .issue packet issue)

/-- A run of calls, and its log. -/
def SourceHealthMonitor.runEvents (monitor : SourceHealthMonitor) (events : List HealthEvent) :
    SourceHealthMonitor × List LogEntry :=
  events.foldl
    (fun run event => ((run.1.apply event).1, run.2 ++ [(run.1.apply event).2])) (monitor, [])

/-- The last event of a run is applied to what the events before it left. -/
theorem runEvents_append_singleton (monitor : SourceHealthMonitor) (events : List HealthEvent)
    (event : HealthEvent) :
    monitor.runEvents (events ++ [event]) =
      ((((monitor.runEvents events).1).apply event).1,
        (monitor.runEvents events).2 ++ [(((monitor.runEvents events).1).apply event).2]) := by
  rw [runEvents, List.foldl_append]
  rfl

/-- The monitor after a run, without the log. -/
theorem runEvents_fst (monitor : SourceHealthMonitor) (events : List HealthEvent) :
    (monitor.runEvents events).1 =
      events.foldl (fun monitor event => (monitor.apply event).1) monitor := by
  induction events using List.reverseRecOn with
  | nil => rfl
  | append_singleton events event ih =>
    rw [runEvents_append_singleton, List.foldl_append, ← ih]
    rfl

/-- The log of one source, from its first packet on: an issue reported before that concerns a
source that was not yet admitted. -/
def ownLog (source : SensorSource) (log : List LogEntry) : List LogEntry :=
  (log.filter fun entry => identifySensorSource entry.subject = source).dropWhile
    fun entry => !entry.isPacket

/-! ## The two tables are one -/

/-- Everything a monitor keeps of one source. -/
structure SourceRecord where
  tracking : SensorStreamTracker.SourceState
  health : SourceState

namespace SourceRecord

/-- The record a first packet opens. -/
def start (packet : ReceivedPacket) : SourceRecord :=
  let sequenceNumber := packet.packet.header.sequenceNumber
  { tracking := { highestSequence := sequenceNumber, recentSequences := 1#64 }
    health := ({} : SourceState).recordPacket packet { status := .kFirst, sequenceNumber } }

/-- How a known source is observed. -/
def observation (record : SourceRecord) (packet : ReceivedPacket) : SequenceObservation :=
  (record.tracking.observe {} packet.packet.header.sequenceNumber).2.2

def step (record : SourceRecord) : HealthEvent → SourceRecord
  | .packet packet =>
    { tracking := record.tracking.next packet
      health := record.health.recordPacket packet (record.observation packet) }
  | .issue packet issue => { record with health := record.health.recordIssue packet issue }

end SourceRecord

/-- The two tables of a monitor, as one bounded machine over its calls. -/
def monitorMachine (config : SourceHealthMonitorConfig) :
    BoundedMachine HealthEvent SensorSource SourceRecord where
  capacity := config.maxSources
  key event := identifySensorSource event.subject
  create
    | .packet packet => some (SourceRecord.start packet)
    | .issue _ _ => none
  step := SourceRecord.step

/-- The tables of the tracker and of the monitor are the two sides of one table. -/
structure Mirrors (monitor : SourceHealthMonitor) (table : KeyedTable SensorSource SourceRecord) :
    Prop where
  capacity : monitor.streamTracker.config.maxSources = monitor.config.maxSources
  tracking : monitor.streamTracker.sources = table.map SourceRecord.tracking
  health : monitor.sources = table.map SourceRecord.health

/-- A known source is never untracked. -/
theorem observation_tracked (record : SourceRecord) (packet : ReceivedPacket) :
    (record.observation packet).status ≠ .kUntracked :=
  (observe_status _ _ _).2.1

section Mirrors

variable {monitor : SourceHealthMonitor} {table : KeyedTable SensorSource SourceRecord}

/-- The tracker holds of every source what its record says. -/
theorem Mirrors.lookup_tracking (h : Mirrors monitor table) (source : SensorSource) :
    monitor.streamTracker.sources.lookup source =
      (table.lookup source).map SourceRecord.tracking := by
  rw [h.tracking, KeyedTable.lookup_map]

/-- The monitor holds of every source what its record says. -/
theorem Mirrors.lookup_health (h : Mirrors monitor table) (source : SensorSource) :
    monitor.sources.lookup source = (table.lookup source).map SourceRecord.health := by
  rw [h.health, KeyedTable.lookup_map]

/-- How a packet is observed, by what the one table holds of its source. -/
theorem Mirrors.observation (h : Mirrors monitor table) (packet : ReceivedPacket) :
    (monitor.streamTracker.observe packet).2 =
      match table.lookup (identifySensorSource packet) with
      | none =>
        if table.size < monitor.config.maxSources then
          { status := .kFirst, sequenceNumber := packet.packet.header.sequenceNumber }
        else { status := .kUntracked, sequenceNumber := packet.packet.header.sequenceNumber }
      | some record => record.observation packet := by
  rw [observe_observation, h.lookup_tracking, h.capacity, h.tracking, KeyedTable.size_map]
  cases table.lookup (identifySensorSource packet) <;> rfl

/-- A packet of a known source steps its record. -/
theorem Mirrors.observePacket_known (h : Mirrors monitor table) {packet : ReceivedPacket}
    {record : SourceRecord} (known : table.lookup (identifySensorSource packet) = some record) :
    Mirrors (monitor.observePacket packet).1
      (table.modify (identifySensorSource packet) fun record => record.step (.packet packet)) := by
  have hobservation := h.observation packet
  have htracking := h.lookup_tracking (identifySensorSource packet)
  have hhealth := h.lookup_health (identifySensorSource packet)
  obtain ⟨hsources, hconfig⟩ := observe_sources monitor.streamTracker packet
  rw [known] at hobservation
  rw [known, Option.map_some] at htracking hhealth
  rw [BoundedMachine.feed_known _ htracking] at hsources
  rw [SourceHealthMonitor.observePacket]
  dsimp only
  rw [if_neg (hobservation ▸ observation_tracked record packet), hhealth]
  refine ⟨hconfig ▸ h.capacity, ?_, ?_⟩
  · refine hsources.trans ?_
    rw [h.tracking]
    symm
    apply KeyedTable.map_modify known
    rfl
  · dsimp only
    rw [h.health, hobservation]
    symm
    apply KeyedTable.map_modify known
    rfl

/-- A packet of a new source opens its record if there is room, and is dropped otherwise. -/
theorem Mirrors.observePacket_new (h : Mirrors monitor table) {packet : ReceivedPacket}
    (new : table.lookup (identifySensorSource packet) = none) :
    Mirrors (monitor.observePacket packet).1
      (if table.size < monitor.config.maxSources then
        table.pushBack (identifySensorSource packet) (SourceRecord.start packet)
      else table) := by
  have hobservation := h.observation packet
  have htracking := h.lookup_tracking (identifySensorSource packet)
  have hhealth := h.lookup_health (identifySensorSource packet)
  obtain ⟨hsources, hconfig⟩ := observe_sources monitor.streamTracker packet
  have hsize : monitor.streamTracker.sources.size = table.size := by
    rw [h.tracking, KeyedTable.size_map]
  rw [new] at hobservation
  rw [new, Option.map_none] at htracking hhealth
  rw [SourceHealthMonitor.observePacket]
  dsimp only at hobservation ⊢
  by_cases hroom : table.size < monitor.config.maxSources
  · rw [if_pos hroom] at hobservation ⊢
    have hadmits : monitor.streamTracker.sources.size <
        (trackerMachine monitor.streamTracker.config).capacity := by
      rw [hsize]
      exact lt_of_lt_of_eq hroom h.capacity.symm
    rw [BoundedMachine.feed_new _ htracking rfl hadmits] at hsources
    rw [hobservation, if_neg (fun h => nomatch h), hhealth]
    refine ⟨hconfig ▸ h.capacity, ?_, ?_⟩
    · refine hsources.trans ?_
      rw [KeyedTable.map_pushBack, h.tracking]
      rfl
    · dsimp only
      rw [KeyedTable.modify_pushBack (KeyedTable.lookup_eq_none_iff.mp hhealth),
        KeyedTable.map_pushBack, h.health]
      rfl
  · rw [if_neg hroom] at hobservation ⊢
    have hrefuses : ¬ monitor.streamTracker.sources.size <
        (trackerMachine monitor.streamTracker.config).capacity := by
      rw [hsize]
      exact fun hlt => hroom (lt_of_lt_of_eq hlt h.capacity)
    rw [BoundedMachine.feed_full _ htracking hrefuses] at hsources
    rw [hobservation, if_pos rfl]
    exact ⟨hconfig ▸ h.capacity, hsources.trans h.tracking, h.health⟩

/-- Observing a packet leaves the configuration. -/
theorem observePacket_config (monitor : SourceHealthMonitor) (packet : ReceivedPacket) :
    (monitor.observePacket packet).1.config = monitor.config := by
  unfold SourceHealthMonitor.observePacket
  dsimp only
  split <;> rfl

/-- Observing an issue leaves the configuration. -/
theorem observeIssue_config (monitor : SourceHealthMonitor) (packet : ReceivedPacket)
    (issue : SourceHealthIssue) : (monitor.observeIssue packet issue).config = monitor.config := by
  unfold SourceHealthMonitor.observeIssue
  dsimp only
  split <;> rfl

/-- **One call feeds the one table.** -/
theorem Mirrors.apply (h : Mirrors monitor table) (event : HealthEvent) :
    Mirrors (monitor.apply event).1 ((monitorMachine monitor.config).feed table event) := by
  cases event with
  | packet packet =>
    cases hlookup : table.lookup (identifySensorSource packet) with
    | none =>
      refine Eq.subst ?_ (h.observePacket_new hlookup)
      split
      next hroom =>
        symm
        exact BoundedMachine.feed_new _ hlookup rfl hroom
      next hfull =>
        symm
        exact BoundedMachine.feed_full _ hlookup hfull
    | some record =>
      rw [(monitorMachine monitor.config).feed_known hlookup]
      exact h.observePacket_known hlookup
  | issue packet issue =>
    have hhealth := h.lookup_health (identifySensorSource packet)
    change Mirrors (monitor.observeIssue packet issue) _
    unfold SourceHealthMonitor.observeIssue
    dsimp only
    cases hlookup : table.lookup (identifySensorSource packet) with
    | none =>
      rw [hlookup, Option.map_none] at hhealth
      rw [hhealth, (monitorMachine monitor.config).feed_ignored hlookup rfl]
      exact h
    | some record =>
      rw [hlookup, Option.map_some] at hhealth
      rw [hhealth, (monitorMachine monitor.config).feed_known hlookup]
      refine ⟨h.capacity, ?_, ?_⟩
      · refine h.tracking.trans ?_
        symm
        apply KeyedTable.map_modify_unseen
        intro record
        rfl
      · dsimp only
        rw [h.health]
        symm
        apply KeyedTable.map_modify hlookup
        rfl

/-- No event changes the configuration. -/
theorem apply_config (monitor : SourceHealthMonitor) (event : HealthEvent) :
    (monitor.apply event).1.config = monitor.config := by
  cases event with
  | packet packet => exact observePacket_config monitor packet
  | issue packet issue => exact observeIssue_config monitor packet issue

end Mirrors

/-- What a call is logged as: itself, a packet with the status it was given. -/
theorem apply_entry (monitor : SourceHealthMonitor) (event : HealthEvent) :
    (monitor.apply event).2 =
      match event with
      | .packet packet => .packet packet (monitor.streamTracker.observe packet).2
      | .issue packet issue => .issue packet issue := by
  cases event with
  | packet packet =>
    change LogEntry.packet packet (monitor.observePacket packet).2 = _
    have hsame : (monitor.observePacket packet).2 = (monitor.streamTracker.observe packet).2 := by
      unfold SourceHealthMonitor.observePacket
      dsimp only
      split <;> rfl
    rw [hsame]
  | issue packet issue => rfl

/-! ## Own logs -/

/-- The next entry joins the log of its source, unless it is an issue before the first packet. -/
theorem ownLog_append_singleton (source : SensorSource) (log : List LogEntry) (entry : LogEntry) :
    ownLog source (log ++ [entry]) =
      if identifySensorSource entry.subject = source ∧
          (entry.isPacket = true ∨ ownLog source log ≠ []) then ownLog source log ++ [entry]
      else ownLog source log := by
  rw [ownLog, List.filter_append, List.filter_singleton, List.dropWhile_append]
  change (if (ownLog source log).isEmpty = true then _ else ownLog source log ++ _) = _
  by_cases hsource : identifySensorSource entry.subject = source
  · rw [decide_eq_true hsource, cond_true]
    cases hlog : ownLog source log with
    | nil =>
      rw [List.isEmpty_nil, if_pos rfl]
      cases hpacket : entry.isPacket with
      | true => simp [hpacket, hsource]
      | false => simp [hpacket, hsource]
    | cons first rest =>
      simp [hsource]
  · have hother : ¬ (identifySensorSource entry.subject = source ∧
        (entry.isPacket = true ∨ ownLog source log ≠ [])) := fun h => hsource h.1
    rw [decide_eq_false hsource, cond_false, if_neg hother, List.append_nil]
    split
    next h => exact (List.isEmpty_iff.mp h).symm
    next => rfl

/-! ## Every reachable record is logged -/

/-- The state of a run: its log, and the one table the monitor mirrors. -/
structure RunInvariant (config : SourceHealthMonitorConfig) (monitor : SourceHealthMonitor)
    (log : List LogEntry) (table : KeyedTable SensorSource SourceRecord) : Prop where
  config_eq : monitor.config = config
  mirrors : Mirrors monitor table
  /-- A record is what the log of its source leads to. -/
  logged : ∀ source record, table.lookup source = some record →
    ownLog source log ≠ [] ∧ Tracked (ownLog source log) ∧
      record.health = replay (ownLog source log)
  /-- While there is room, a source without a record has sent nothing. -/
  fresh : ∀ source, table.lookup source = none → table.size < config.maxSources →
    ownLog source log = []

namespace RunInvariant

variable {config : SourceHealthMonitorConfig} {monitor : SourceHealthMonitor}
  {log : List LogEntry} {table : KeyedTable SensorSource SourceRecord}

/-- The log of a source after a call about another one. -/
private theorem ownLog_other {source : SensorSource} {entry : LogEntry}
    (h : source ≠ identifySensorSource entry.subject) :
    ownLog source (log ++ [entry]) = ownLog source log := by
  rw [ownLog_append_singleton, if_neg fun hsame => h hsame.1.symm]

/-- The log of a known source takes every call about it. -/
private theorem ownLog_known {source : SensorSource} {entry : LogEntry}
    (h : source = identifySensorSource entry.subject) (known : ownLog source log ≠ []) :
    ownLog source (log ++ [entry]) = ownLog source log ++ [entry] := by
  rw [ownLog_append_singleton, if_pos ⟨h.symm, Or.inr known⟩]

/-- A call about a known source. -/
theorem known (h : RunInvariant config monitor log table) (event : HealthEvent)
    {record : SourceRecord}
    (hlookup : table.lookup (identifySensorSource event.subject) = some record) :
    RunInvariant config (monitor.apply event).1 (log ++ [(monitor.apply event).2])
      (table.modify (identifySensorSource event.subject) fun record => record.step event) := by
  have hmirrors := h.mirrors.apply event
  rw [BoundedMachine.feed_known _ hlookup] at hmirrors
  have hsubject : (monitor.apply event).2.subject = event.subject := by
    rw [apply_entry]
    cases event <;> rfl
  refine ⟨(apply_config monitor event).trans h.config_eq, hmirrors, ?_, ?_⟩
  · intro source stepped hstepped
    rw [KeyedTable.lookup_modify] at hstepped
    split at hstepped
    next hsource =>
      rw [hsource, hlookup] at hstepped
      cases hstepped
      obtain ⟨hne, htracked, hreplay⟩ := h.logged _ _ hlookup
      rw [hsource, ownLog_known (by rw [hsubject]) hne, replay_append_singleton, ← hreplay]
      refine ⟨List.append_ne_nil_of_left_ne_nil hne _, ?_⟩
      rw [apply_entry]
      cases event with
      | packet packet =>
        have hobservation := h.mirrors.observation packet
        rw [show table.lookup (identifySensorSource packet) = some record from hlookup]
          at hobservation
        dsimp only at hobservation ⊢
        rw [hobservation]
        exact ⟨htracked.append_packet packet (observation_tracked record packet), rfl⟩
      | issue packet issue => exact ⟨htracked.append_issue packet issue, rfl⟩
    next hsource =>
      rw [ownLog_other (hsubject.symm ▸ hsource)]
      exact h.logged source stepped hstepped
  · intro source hnone hroom
    rw [KeyedTable.lookup_modify] at hnone
    have hsize : (table.modify (identifySensorSource event.subject) fun record =>
        record.step event).size = table.size := List.length_map _
    rw [hsize] at hroom
    split at hnone
    next hsource =>
      rw [hsource, hlookup] at hnone
      cases hnone
    next hsource =>
      rw [ownLog_other (hsubject.symm ▸ hsource)]
      exact h.fresh source hnone hroom

/-- A first packet, with room for its source. -/
theorem opens (h : RunInvariant config monitor log table) (packet : ReceivedPacket)
    (hlookup : table.lookup (identifySensorSource packet) = none)
    (room : table.size < config.maxSources) :
    RunInvariant config (monitor.apply (.packet packet)).1
      (log ++ [(monitor.apply (.packet packet)).2])
      (table.pushBack (identifySensorSource packet) (SourceRecord.start packet)) := by
  have hfresh := KeyedTable.lookup_eq_none_iff.mp hlookup
  have hmirrors := h.mirrors.observePacket_new hlookup
  rw [h.config_eq, if_pos room] at hmirrors
  have hentry : (monitor.apply (.packet packet)).2 = .packet packet
      { status := .kFirst, sequenceNumber := packet.packet.header.sequenceNumber } := by
    rw [apply_entry]
    dsimp only
    rw [h.mirrors.observation, hlookup, h.config_eq]
    dsimp only
    rw [if_pos room]
  rw [hentry]
  refine ⟨(apply_config monitor (.packet packet)).trans h.config_eq, hmirrors, ?_, ?_⟩
  · intro source record hrecord
    rw [KeyedTable.lookup_pushBack hfresh] at hrecord
    split at hrecord
    next hsource =>
      cases hrecord
      have hempty := h.fresh source (hsource ▸ hlookup) room
      rw [ownLog_append_singleton, if_pos ⟨hsource.symm, Or.inl rfl⟩, hempty]
      exact ⟨List.cons_ne_nil _ _, Tracked.nil.append_packet packet (by simp), rfl⟩
    next hsource =>
      rw [ownLog_other hsource]
      exact h.logged source record hrecord
  · intro source hnone hroom
    rw [KeyedTable.lookup_pushBack hfresh] at hnone
    split at hnone
    next => cases hnone
    next hsource =>
      rw [ownLog_other hsource]
      exact h.fresh source hnone room

/-- A call that finds no record and opens none. -/
theorem ignored (h : RunInvariant config monitor log table) (event : HealthEvent)
    (hlookup : table.lookup (identifySensorSource event.subject) = none)
    (hfeed : (monitorMachine config).feed table event = table)
    (silent : table.size < config.maxSources → (monitor.apply event).2.isPacket = false) :
    RunInvariant config (monitor.apply event).1 (log ++ [(monitor.apply event).2]) table := by
  have hmirrors := h.mirrors.apply event
  rw [h.config_eq, hfeed] at hmirrors
  have hsubject : (monitor.apply event).2.subject = event.subject := by
    rw [apply_entry]
    cases event <;> rfl
  refine ⟨(apply_config monitor event).trans h.config_eq, hmirrors, ?_, ?_⟩
  · intro source record hrecord
    have hother : source ≠ identifySensorSource (monitor.apply event).2.subject := by
      rintro rfl
      rw [hsubject, hlookup] at hrecord
      cases hrecord
    rw [ownLog_other hother]
    exact h.logged source record hrecord
  · intro source hnone hroom
    have hempty := h.fresh source hnone hroom
    rw [ownLog_append_singleton, if_neg, hempty]
    rintro ⟨_, hpacket | hne⟩
    · rw [silent hroom] at hpacket
      cases hpacket
    · exact hne hempty

/-- **One call keeps the invariant.** -/
theorem apply (h : RunInvariant config monitor log table) (event : HealthEvent) :
    RunInvariant config (monitor.apply event).1 (log ++ [(monitor.apply event).2])
      ((monitorMachine config).feed table event) := by
  cases hlookup : table.lookup (identifySensorSource event.subject) with
  | some record =>
    rw [(monitorMachine config).feed_known hlookup]
    exact h.known event hlookup
  | none =>
    cases event with
    | packet packet =>
      by_cases hroom : table.size < config.maxSources
      · have hfeed := (monitorMachine config).feed_new hlookup rfl hroom
        rw [hfeed]
        exact h.opens packet hlookup hroom
      · have hfeed := (monitorMachine config).feed_full hlookup hroom
        rw [hfeed]
        exact h.ignored _ hlookup hfeed fun hlt => absurd hlt hroom
    | issue packet issue =>
      have hfeed := (monitorMachine config).feed_ignored hlookup rfl
      rw [hfeed]
      exact h.ignored _ hlookup hfeed fun _ => rfl

end RunInvariant

/-- What the constructor builds. -/
theorem make_eq_ok {config : SourceHealthMonitorConfig} {monitor : SourceHealthMonitor}
    (h : SourceHealthMonitor.make config = .ok monitor) :
    validateConfig config = .ok config ∧
      monitor = { config, streamTracker := { config := { maxSources := config.maxSources } } } := by
  unfold SourceHealthMonitor.make at h
  cases hvalid : validateConfig config with
  | error exception =>
    rw [hvalid] at h
    cases h
  | ok valid =>
    obtain ⟨rfl, hpositive, _⟩ := validateConfig_eq_ok hvalid
    have htracker : SensorStreamTracker.make { maxSources := valid.maxSources } =
        .ok { config := { maxSources := valid.maxSources } } := if_neg hpositive
    rw [hvalid] at h
    change (SensorStreamTracker.make { maxSources := valid.maxSources } >>= fun streamTracker =>
      Except.ok _) = _ at h
    rw [htracker] at h
    exact ⟨rfl, (Except.ok.inj h).symm⟩

/-- **Every reachable monitor keeps the invariant**, with the table its calls lead to. -/
theorem runEvents_invariant {config : SourceHealthMonitorConfig} {monitor : SourceHealthMonitor}
    (made : SourceHealthMonitor.make config = .ok monitor) (events : List HealthEvent) :
    RunInvariant config (monitor.runEvents events).1 (monitor.runEvents events).2
      ((monitorMachine config).run events) := by
  obtain ⟨_, rfl⟩ := make_eq_ok made
  induction events using List.reverseRecOn with
  | nil =>
    refine ⟨rfl, ⟨rfl, rfl, rfl⟩, ?_, fun _ _ _ => rfl⟩
    intro source record hlookup
    cases hlookup
  | append_singleton events event ih =>
    rw [runEvents_append_singleton, BoundedMachine.run_append_singleton]
    exact ih.apply event

/-- The sources that send packets, one for each packet. -/
def packetSources (events : List HealthEvent) : List SensorSource :=
  events.filterMap fun event =>
    match event with
    | .packet packet => some (identifySensorSource packet)
    | .issue _ _ => none

/-- A source is opened by its packets, never by its issues. -/
theorem opened_monitorMachine (config : SourceHealthMonitorConfig) (events : List HealthEvent) :
    (monitorMachine config).opened events = packetSources events := by
  refine List.filterMap_congr fun event _ => ?_
  cases event <;> rfl

/-! ## The status in a report -/

/-- A report holds one snapshot for each record, taken from it. -/
theorem mem_report {monitor : SourceHealthMonitor} {nowTimestampNs : BitVec 64}
    {snapshot : SourceHealthSnapshot} :
    snapshot ∈ (monitor.report nowTimestampNs).sources ↔
      ∃ source state, monitor.sources.lookup source = some state ∧
        snapshot = state.makeSnapshot monitor.config source nowTimestampNs := by
  rw [SourceHealthMonitor.report]
  dsimp only
  rw [List.mem_mergeSort, List.mem_map]
  constructor
  · rintro ⟨⟨source, state⟩, hmem, rfl⟩
    exact ⟨source, state, KeyedTable.lookup_of_mem hmem, rfl⟩
  · rintro ⟨source, state, hlookup, rfl⟩
    exact ⟨(source, state), KeyedTable.mem_of_lookup hlookup, rfl⟩

/-- **The record of an admitted source** is the one that its own log leads to. -/
theorem lookup_of_admitted {config : SourceHealthMonitorConfig} {monitor : SourceHealthMonitor}
    (made : SourceHealthMonitor.make config = .ok monitor) (events : List HealthEvent)
    {source : SensorSource}
    (isAdmitted : source ∈ admitted config.maxSources (packetSources events)) :
    let run := monitor.runEvents events
    Tracked (ownLog source run.2) ∧
      run.1.sources.lookup source = some (replay (ownLog source run.2)) := by
  intro run
  have hinvariant := runEvents_invariant made events
  have hkeys := (monitorMachine config).keys_run events
  rw [opened_monitorMachine] at hkeys
  obtain ⟨record, hlookup⟩ : ∃ record, ((monitorMachine config).run events).lookup source =
      some record := by
    refine Option.isSome_iff_exists.mp (KeyedTable.isSome_lookup_iff.mpr ?_)
    rw [hkeys]
    exact isAdmitted
  obtain ⟨_, htracked, hreplay⟩ := hinvariant.logged source record hlookup
  have hrecord := hinvariant.mirrors.lookup_health source
  rw [hlookup, Option.map_some, hreplay] at hrecord
  exact ⟨htracked, hrecord⟩

/-- **The snapshot of an admitted source** is in the report, it is the only one of its source, and
it is taken from that record. -/
theorem report_of_admitted {config : SourceHealthMonitorConfig} {monitor : SourceHealthMonitor}
    (made : SourceHealthMonitor.make config = .ok monitor) (events : List HealthEvent)
    {source : SensorSource} (nowTimestampNs : BitVec 64)
    (isAdmitted : source ∈ admitted config.maxSources (packetSources events)) :
    let run := monitor.runEvents events
    let snapshot :=
      (replay (ownLog source run.2)).makeSnapshot config source nowTimestampNs
    Tracked (ownLog source run.2) ∧ snapshot ∈ (run.1.report nowTimestampNs).sources ∧
      ∀ other ∈ (run.1.report nowTimestampNs).sources, other.source = source →
        other = snapshot := by
  intro run snapshot
  have hconfig := (runEvents_invariant made events).config_eq
  obtain ⟨htracked, hrecord⟩ := lookup_of_admitted made events isAdmitted
  refine ⟨htracked, mem_report.mpr ⟨source, _, hrecord, ?_⟩, ?_⟩
  · rw [hconfig]
  · intro other hmem hsource
    obtain ⟨key, state, hstate, rfl⟩ := mem_report.mp hmem
    have hkey : key = source := hsource
    rw [hkey, hrecord] at hstate
    cases hstate
    rw [hkey, hconfig]

/-- **Health status is the documented rules over the full event log.** After any run of packets and
issues, and at any report time, every admitted source is in the report, and its status there is the
one its own complete log has under the rules. -/
theorem report_status_refines (config : SourceHealthMonitorConfig) (monitor : SourceHealthMonitor)
    (made : SourceHealthMonitor.make config = .ok monitor) (events : List HealthEvent)
    (source : SensorSource) (nowTimestampNs : BitVec 64)
    (isAdmitted : source ∈ admitted config.maxSources (packetSources events)) :
    let run := monitor.runEvents events
    (∃ snapshot ∈ (run.1.report nowTimestampNs).sources, snapshot.source = source) ∧
      ∀ snapshot ∈ (run.1.report nowTimestampNs).sources, snapshot.source = source →
        snapshot.status = SourceLog.statusOf config (ownLog source run.2) nowTimestampNs := by
  intro run
  obtain ⟨accepted, _⟩ := make_eq_ok made
  obtain ⟨htracked, hmem, honly⟩ := report_of_admitted made events nowTimestampNs isAdmitted
  refine ⟨⟨_, hmem, rfl⟩, ?_⟩
  intro snapshot hsnapshot hsource
  rw [honly snapshot hsnapshot hsource]
  exact (logged_replay htracked).evaluateStatus_eq accepted nowTimestampNs

/-- A gap degrades a source, and two normal packets alone do not bring it back. -/
theorem report_status_refines_gap :
    let monitor : SourceHealthMonitor :=
      { config := {}, streamTracker := { config := { maxSources := 256 } } }
    let run := monitor.runEvents
      [.packet (numbered 10), .packet (numbered 14), .packet (numbered 15), .packet (numbered 16)]
    ∀ snapshot ∈ (run.1.report 5).sources,
      snapshot.source = identifySensorSource (numbered 10) → snapshot.status = .kDegraded := by
  intro monitor run snapshot hmem hsource
  have h := (report_status_refines {} monitor rfl
    [.packet (numbered 10), .packet (numbered 14), .packet (numbered 15), .packet (numbered 16)]
    (identifySensorSource (numbered 10)) 5 (by decide)).2 snapshot hmem hsource
  have hstatus : SourceLog.statusOf {} (ownLog (identifySensorSource (numbered 10)) run.2) 5 =
      .kDegraded := by decide
  exact h.trans hstatus

end Driveflow.Runtime
