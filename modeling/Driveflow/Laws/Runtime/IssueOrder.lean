import Driveflow.Laws.Runtime.PacketSide

/-!
# Issues commute with packets, except for recovery evidence

Issues come from several threads and may be reported any time after their packet. Two runs that
observe the same packets and report the same issues make reports that differ in statuses only. The
one thing that depends on the order is how many normal packets came after the last issue, and
postponing issues can only lower it: a source then keeps its status or is degraded
(`issues_commute`).
-/

namespace Driveflow.Runtime

open Library Net Protocol SourceHealthMonitor

/-! ## Where the issues stand -/

/-- Each issue, with the number of packets observed before it. -/
def placedFrom (count : Nat) : List HealthEvent → List (Nat × ReceivedPacket × SourceHealthIssue)
  | [] => []
  | .packet _ :: events => placedFrom (count + 1) events
  | .issue packet issue :: events => (count, packet, issue) :: placedFrom count events

def placed (events : List HealthEvent) : List (Nat × ReceivedPacket × SourceHealthIssue) :=
  placedFrom 0 events

/-- The second run makes the issues of the first, each no earlier relative to the packets. -/
def Postponed (events events' : List HealthEvent) : Prop :=
  ∃ calls, calls.Perm (placed events') ∧
    List.Forall₂ (fun call call' => call.2 = call'.2 ∧ call.1 ≤ call'.1) (placed events) calls

/-- The issues that are reported. -/
def issueCalls (events : List HealthEvent) : List (ReceivedPacket × SourceHealthIssue) :=
  (placed events).map Prod.snd

/-- A call is placed by how many packets were observed before it. -/
private theorem mem_placedFrom {call : ReceivedPacket × SourceHealthIssue} {place : Nat}
    {events : List HealthEvent} (count : Nat) :
    (place, call) ∈ placedFrom count events ↔ ∃ before after,
      events = before ++ .issue call.1 call.2 :: after ∧
        place = count + (observedPackets before).length := by
  induction events generalizing count with
  | nil =>
    refine ⟨fun h => absurd h List.not_mem_nil, ?_⟩
    rintro ⟨before, after, h, _⟩
    exact absurd h.symm (List.append_ne_nil_of_right_ne_nil _ (List.cons_ne_nil _ _))
  | cons event events ih =>
    cases event with
    | packet packet =>
      rw [placedFrom, ih]
      constructor
      · rintro ⟨before, after, rfl, rfl⟩
        refine ⟨.packet packet :: before, after, rfl, ?_⟩
        change _ = count + ((observedPackets before).length + 1)
        omega
      · rintro ⟨before, after, h, rfl⟩
        cases before with
        | nil => cases h
        | cons first before =>
          cases h
          refine ⟨before, after, rfl, ?_⟩
          change count + ((observedPackets before).length + 1) = _
          omega
    | issue packet issue =>
      rw [placedFrom, List.mem_cons, ih]
      constructor
      · rintro (h | ⟨before, after, rfl, rfl⟩)
        · cases h
          exact ⟨[], events, rfl, rfl⟩
        · exact ⟨.issue packet issue :: before, after, rfl, rfl⟩
      · rintro ⟨before, after, h, rfl⟩
        cases before with
        | nil =>
          cases h
          exact Or.inl rfl
        | cons first before =>
          cases h
          exact Or.inr ⟨before, after, rfl, rfl⟩

/-- An issue stands where as many packets came before it. -/
theorem mem_placed {call : ReceivedPacket × SourceHealthIssue} {place : Nat}
    {events : List HealthEvent} :
    (place, call) ∈ placed events ↔ ∃ before after,
      events = before ++ .issue call.1 call.2 :: after ∧
        place = (observedPackets before).length := by
  rw [placed, mem_placedFrom]
  simp only [Nat.zero_add]

/-- The packets with an issue of one kind. -/
theorem issuePackets_eq (kind : SourceHealthIssue) (events : List HealthEvent) :
    issuePackets kind events =
      (issueCalls events).filterMap fun call => if call.2 = kind then some call.1 else none := by
  have hfrom (count : Nat) : issuePackets kind events =
      ((placedFrom count events).map Prod.snd).filterMap fun call =>
        if call.2 = kind then some call.1 else none := by
    induction events generalizing count with
    | nil => rfl
    | cons event events ih =>
      cases event with
      | packet packet => exact ih (count + 1)
      | issue packet issue =>
        rw [placedFrom, List.map_cons, List.filterMap_cons, issuePackets, List.filterMap_cons,
          ← ih count]
        rfl
  exact hfrom 0

/-- The issues reported about one source. -/
theorem issueCalls_eventsOf (source : SensorSource) (events : List HealthEvent) :
    issueCalls (eventsOf source events) =
      (issueCalls events).filter fun call => identifySensorSource call.1 = source := by
  have hfrom (count count' : Nat) :
      (placedFrom count (eventsOf source events)).map Prod.snd =
        ((placedFrom count' events).map Prod.snd).filter fun call =>
          identifySensorSource call.1 = source := by
    induction events generalizing count count' with
    | nil => rfl
    | cons event events ih =>
      by_cases hsource : identifySensorSource event.subject = source
      · have hown : eventsOf source (event :: events) = event :: eventsOf source events :=
          List.filter_cons_of_pos (decide_eq_true hsource)
        rw [hown]
        cases event with
        | packet packet => exact ih (count + 1) (count' + 1)
        | issue packet issue =>
          rw [placedFrom, placedFrom, List.map_cons, List.map_cons, ih count count']
          symm
          refine List.filter_cons_of_pos ?_
          exact decide_eq_true hsource
      · have hown : eventsOf source (event :: events) = eventsOf source events :=
          List.filter_cons_of_neg fun h => hsource (of_decide_eq_true h)
        rw [hown]
        cases event with
        | packet packet => exact ih count (count' + 1)
        | issue packet issue =>
          rw [placedFrom, List.map_cons, ih count count']
          symm
          refine List.filter_cons_of_neg ?_
          exact fun h => hsource (of_decide_eq_true h)
  exact hfrom 0 0

/-! ## Marks of a log -/

namespace SourceLog

variable (log : List LogEntry) (entry : LogEntry)

/-- How many packets came up to each issue event. -/
def issueMarks : List Nat :=
  log.inits.filterMap fun before =>
    match before.getLast? with
    | none => none
    | some entry => if entry.isIssue then some (packets before).length else none

/-- The receive timestamps of the reported issues. -/
def reportedTimes : List Nat :=
  (log.filter fun entry => !entry.isPacket).map fun entry =>
    entry.subject.receiveTimestampNs.toNat

theorem issueMarks_append_singleton :
    issueMarks (log ++ [entry]) =
      if entry.isIssue then issueMarks log ++ [(packets (log ++ [entry])).length]
      else issueMarks log := by
  rw [issueMarks, List.inits_append, List.filterMap_append]
  change issueMarks log ++ List.filterMap _ [log ++ [entry]] = _
  rw [List.filterMap_cons, List.filterMap_nil, List.getLast?_concat]
  dsimp only
  cases entry.isIssue with
  | true => rfl
  | false => exact List.append_nil _

/-- An issue that is reported adds the receive time of its packet. -/
theorem reportedTimes_append_singleton :
    reportedTimes (log ++ [entry]) =
      if entry.isPacket then reportedTimes log
      else reportedTimes log ++ [entry.subject.receiveTimestampNs.toNat] := by
  rw [reportedTimes, List.filter_append, List.filter_singleton]
  cases entry.isPacket with
  | true => exact congrArg _ (List.append_nil _)
  | false => exact List.map_append

theorem packets_packets : packets (packets log) = packets log := by
  rw [packets, packets, List.filter_filter]
  exact List.filter_congr fun entry _ => Bool.and_self _

theorem last_packets : last (packets log) = last log := by
  rw [last, packets_packets, last]

/-- A reported issue is an issue event. -/
theorem isIssue_of_not_isPacket {entry : LogEntry} (h : entry.isPacket = false) :
    entry.isIssue = true := by
  cases entry with
  | packet _ _ => cases h
  | issue _ _ => rfl

/-- **The times of the issue events**: those of the packets, and those of the reported issues. -/
theorem issueTimes_perm : (issueTimes log).Perm (issueTimes (packets log) ++ reportedTimes log) := by
  induction log using List.reverseRecOn with
  | nil => exact List.Perm.refl _
  | append_singleton log entry ih =>
    rw [issueTimes_append_singleton, reportedTimes_append_singleton, packets_append_singleton]
    cases entry with
    | packet packet observation =>
      have hpacket : (LogEntry.packet packet observation).isPacket = true := rfl
      have hlast := last_packets (log ++ [.packet packet observation])
      rw [packets_append_singleton, if_pos hpacket] at hlast
      rw [if_pos hpacket, if_pos hpacket, issueTimes_append_singleton]
      by_cases hissue : (LogEntry.packet packet observation).isIssue = true
      · rw [if_pos hissue, if_pos hissue]
        refine (ih.append_right _).trans ?_
        rw [List.append_assoc, List.append_assoc]
        refine List.Perm.append_left _ (List.perm_append_comm.trans ?_)
        exact List.Perm.append_right _ (by rw [timeOf, timeOf, hlast])
      · rw [if_neg hissue, if_neg hissue]
        exact ih
    | issue packet issue =>
      have hissue : (LogEntry.issue packet issue).isIssue = true := rfl
      have hpacket : ¬ (LogEntry.issue packet issue).isPacket = true := Bool.false_ne_true
      rw [if_pos hissue, if_neg hpacket, if_neg hpacket, ← List.append_assoc]
      exact ih.append_right _

end SourceLog

/-- The receive timestamps of the reported issues, read off the calls. -/
theorem reportedTimes_eq (log : List LogEntry) :
    SourceLog.reportedTimes log = (issueCalls (log.map LogEntry.event)).map fun call =>
      call.1.receiveTimestampNs.toNat := by
  have hfrom (count : Nat) : SourceLog.reportedTimes log =
      ((placedFrom count (log.map LogEntry.event)).map Prod.snd).map fun call =>
        call.1.receiveTimestampNs.toNat := by
    induction log generalizing count with
    | nil => rfl
    | cons entry log ih =>
      cases entry with
      | packet packet observation => exact ih (count + 1)
      | issue packet issue => exact congrArg _ (ih count)
  exact hfrom 0

/-- A running maximum is the least bound. -/
private theorem foldl_max_le_iff {values : List Nat} {start bound : Nat} :
    values.foldl max start ≤ bound ↔ start ≤ bound ∧ ∀ value ∈ values, value ≤ bound := by
  induction values generalizing start with
  | nil => exact ⟨fun h => ⟨h, fun _ h => absurd h List.not_mem_nil⟩, fun h => h.1⟩
  | cons value values ih =>
    rw [List.foldl_cons, ih, Nat.max_le, List.forall_mem_cons, and_assoc]

namespace SourceLog

/-- **The normal packets since the last issue** are those after the last mark. -/
theorem normalSinceIssue_add_marks (log : List LogEntry) :
    normalSinceIssue log + (issueMarks log).foldl max 0 = (packets log).length := by
  induction log using List.reverseRecOn with
  | nil => rfl
  | append_singleton log entry ih =>
    rw [normalSinceIssue_append_singleton, issueMarks_append_singleton]
    by_cases hissue : entry.isIssue = true
    · rw [if_pos hissue, if_pos hissue, List.foldl_append, Nat.zero_add]
      have hle : (packets log).length ≤ (packets (log ++ [entry])).length := by
        rw [packets, packets, List.filter_append, List.length_append]
        exact Nat.le_add_right _ _
      exact max_eq_right (by omega)
    · have hpacket : entry.isPacket = true := by
        by_contra h
        exact hissue (isIssue_of_not_isPacket (Bool.eq_false_iff.mpr h))
      rw [if_neg hissue, if_neg hissue, packets_append_singleton, if_pos hpacket,
        List.length_append]
      change normalSinceIssue log + 1 + _ = _ + 1
      omega

/-- Each mark is that of an issue event. -/
theorem mem_issueMarks {log : List LogEntry} {mark : Nat} :
    mark ∈ issueMarks log ↔ ∃ before entry after, log = before ++ entry :: after ∧
      entry.isIssue = true ∧ mark = (packets (before ++ [entry])).length := by
  rw [issueMarks, List.mem_filterMap]
  constructor
  · rintro ⟨upto, hmem, hmark⟩
    obtain ⟨after, rfl⟩ := (List.mem_inits _ _).mp hmem
    cases hlast : upto.getLast? with
    | none =>
      rw [hlast] at hmark
      cases hmark
    | some entry =>
      rw [hlast] at hmark
      obtain ⟨before, rfl⟩ := List.getLast?_eq_some_iff.mp hlast
      dsimp only at hmark
      split at hmark
      next hissue =>
        cases hmark
        exact ⟨before, entry, after, by rw [List.append_assoc]; rfl, hissue, rfl⟩
      next => cases hmark
  · rintro ⟨before, entry, after, rfl, hissue, rfl⟩
    refine ⟨before ++ [entry], (List.mem_inits _ _).mpr ⟨after, ?_⟩, ?_⟩
    · rw [List.append_assoc]
      rfl
    · rw [List.getLast?_concat]
      exact if_pos hissue

end SourceLog

/-! ## Two orders of the same calls -/

section Orders

variable {config : SourceHealthMonitorConfig} {monitor : SourceHealthMonitor}
  {events events' : List HealthEvent}

/-- A postponed issue comes after at least as many packets. -/
private theorem Postponed.later (h : Postponed events events') {place : Nat}
    {call : ReceivedPacket × SourceHealthIssue} (hmem : (place, call) ∈ placed events) :
    ∃ place', place ≤ place' ∧ (place', call) ∈ placed events' := by
  obtain ⟨calls, hperm, hcalls⟩ := h
  obtain ⟨index, hindex, hget⟩ := List.getElem_of_mem hmem
  have hindex' : index < calls.length := hcalls.length_eq ▸ hindex
  obtain ⟨hsame, hle⟩ := (List.forall₂_iff_get.mp hcalls).2 index hindex hindex'
  rw [List.get_eq_getElem, List.get_eq_getElem, hget] at hsame hle
  refine ⟨_, hle, ?_⟩
  have hlater : (calls[index].1, call) = calls[index] := Prod.ext rfl hsame
  rw [hlater]
  exact hperm.mem_iff.mp (List.getElem_mem hindex')

/-- The packets of a log and those of the calls it logs. -/
private theorem length_packets_of_map {log : List LogEntry} {calls : List HealthEvent}
    (h : log.map LogEntry.event = calls) :
    (SourceLog.packets log).length = (observedPackets calls).length := by
  rw [length_packets_eq, h]

/-- **A postponed issue comes later in the log of its source.** -/
private theorem exists_later_issue (heralded : Heralded events) (heralded' : Heralded events')
    (same : observedPackets events = observedPackets events')
    (postponed : Postponed events events') {source : SensorSource} {before after : List LogEntry}
    {packet : ReceivedPacket} {issue : SourceHealthIssue}
    (h : ownLog source (monitor.runEvents events).2 = before ++ .issue packet issue :: after) :
    ∃ before' after', ownLog source (monitor.runEvents events').2 =
        before' ++ .issue packet issue :: after' ∧
      (SourceLog.packets before).length ≤ (SourceLog.packets before').length := by
  have hown := ownLog_of_heralded monitor heralded source
  rw [h, List.map_append, List.map_cons] at hown
  obtain ⟨early, rest, rfl, hearly, hrest⟩ := List.filter_eq_append_iff.mp hown.symm
  obtain ⟨skipped, late, rfl, hskipped, habout, hlate⟩ := List.filter_eq_cons_iff.mp hrest
  -- where the issue stands in the whole run, and where it stands in the other one
  have hplace : ((observedPackets (early ++ skipped)).length, (packet, issue)) ∈
      placed (early ++ (skipped ++ .issue packet issue :: late)) :=
    mem_placed.mpr ⟨early ++ skipped, late, (List.append_assoc _ _ _).symm, rfl⟩
  obtain ⟨place', hle, hplace'⟩ := postponed.later hplace
  obtain ⟨early', late', hevents', rfl⟩ := mem_placed.mp hplace'
  have hsplit' : eventsOf source events' =
      eventsOf source early' ++ .issue packet issue :: eventsOf source late' := by
    rw [hevents', eventsOf, List.filter_append]
    exact congrArg _ (List.filter_cons_of_pos habout)
  have hown' := ownLog_of_heralded monitor heralded' source
  rw [hsplit'] at hown'
  obtain ⟨before', rest', hlog', hbefore', hrest'⟩ := List.map_eq_append_iff.mp hown'
  obtain ⟨entry, after', rfl, hentry, hafter'⟩ := List.map_eq_cons_iff.mp hrest'
  have hissue : entry = .issue packet issue := by
    cases entry with
    | packet _ _ => cases hentry
    | issue _ _ =>
      cases hentry
      rfl
  refine ⟨before', after', hissue ▸ hlog', ?_⟩
  have hskippedOwn : eventsOf source skipped = [] :=
    List.filter_eq_nil_iff.mpr hskipped
  have hbefore : before.map LogEntry.event = eventsOf source (early ++ skipped) := by
    rw [eventsOf, List.filter_append, hearly]
    exact (List.append_nil _).symm.trans (congrArg _ hskippedOwn.symm)
  rw [length_packets_of_map hbefore, length_packets_of_map hbefore', observedPackets_eventsOf,
    observedPackets_eventsOf]
  -- the packets before the issue in one run are a prefix of those before it in the other
  have hskippedIn : observedPackets (early ++ skipped) <+: observedPackets events' := by
    rw [← same, ← List.append_assoc]
    exact ⟨_, List.filterMap_append.symm⟩
  have hearlyIn : observedPackets early' <+: observedPackets events' := by
    rw [hevents']
    exact ⟨_, List.filterMap_append.symm⟩
  have hinitial := List.prefix_of_prefix_length_le hskippedIn hearlyIn hle
  exact (hinitial.filter _).length_le

/-- **Postponing issues lowers the evidence of recovery.** -/
theorem normalSinceIssue_postponed (heralded : Heralded events) (heralded' : Heralded events')
    (same : observedPackets events = observedPackets events')
    (postponed : Postponed events events') (source : SensorSource) :
    SourceLog.normalSinceIssue (ownLog source (monitor.runEvents events').2) ≤
      SourceLog.normalSinceIssue (ownLog source (monitor.runEvents events).2) := by
  have hpackets := @packets_ownLog_eq monitor _ _ same source
  have hmarks : (SourceLog.issueMarks (ownLog source (monitor.runEvents events).2)).foldl max 0 ≤
      (SourceLog.issueMarks (ownLog source (monitor.runEvents events').2)).foldl max 0 := by
    refine foldl_max_le_iff.mpr ⟨Nat.zero_le _, fun mark hmark => ?_⟩
    suffices h : ∃ mark' ∈ SourceLog.issueMarks (ownLog source (monitor.runEvents events').2),
        mark ≤ mark' by
      obtain ⟨mark', hmem, hle⟩ := h
      exact hle.trans ((foldl_max_le_iff.mp (Nat.le_refl _)).2 mark' hmem)
    obtain ⟨before, entry, after, hlog, hissue, rfl⟩ := SourceLog.mem_issueMarks.mp hmark
    cases entry with
    | packet packet observation =>
      -- a packet has the same packets before it in both runs
      rw [hlog, SourceLog.packets, List.filter_append, List.filter_cons_of_pos rfl] at hpackets
      obtain ⟨before', rest', hlog', hbefore', hrest'⟩ :=
        List.filter_eq_append_iff.mp hpackets.symm
      obtain ⟨skipped, after', rfl, hskipped, _, _⟩ := List.filter_eq_cons_iff.mp hrest'
      refine ⟨_, SourceLog.mem_issueMarks.mpr ⟨before' ++ skipped, _, after', ?_, hissue, rfl⟩, ?_⟩
      · rw [hlog', List.append_assoc]
      · rw [SourceLog.packets, SourceLog.packets, List.filter_append, List.append_assoc,
          List.filter_append, List.filter_append, hbefore', List.filter_eq_nil_iff.mpr hskipped]
        exact Nat.le_refl _
    | issue packet issue =>
      obtain ⟨before', after', hlog', hle⟩ :=
        exists_later_issue heralded heralded' same postponed hlog
      refine ⟨_, SourceLog.mem_issueMarks.mpr ⟨before', _, after', hlog', rfl, rfl⟩, ?_⟩
      rw [SourceLog.packets_append_singleton, SourceLog.packets_append_singleton]
      exact hle
  have hbefore := SourceLog.normalSinceIssue_add_marks
    (ownLog source (monitor.runEvents events).2)
  have hafter := SourceLog.normalSinceIssue_add_marks
    (ownLog source (monitor.runEvents events').2)
  rw [← hpackets] at hafter
  omega

/-- The times of the issue events do not depend on the order. -/
private theorem issueTimes_ownLog_perm (heralded : Heralded events)
    (heralded' : Heralded events') (same : observedPackets events = observedPackets events')
    (calls : (issueCalls events).Perm (issueCalls events')) (source : SensorSource) :
    (SourceLog.issueTimes (ownLog source (monitor.runEvents events).2)).Perm
      (SourceLog.issueTimes (ownLog source (monitor.runEvents events').2)) := by
  have hpackets := @packets_ownLog_eq monitor _ _ same source
  have hreported {events : List HealthEvent} (heralded : Heralded events) :
      SourceLog.reportedTimes (ownLog source (monitor.runEvents events).2) =
        ((issueCalls events).filter fun call => identifySensorSource call.1 = source).map
          fun call => call.1.receiveTimestampNs.toNat := by
    rw [reportedTimes_eq, ownLog_of_heralded monitor heralded, issueCalls_eventsOf]
  refine (SourceLog.issueTimes_perm _).trans (List.Perm.trans ?_ (SourceLog.issueTimes_perm _).symm)
  rw [hpackets, hreported heralded, hreported heralded']
  exact ((calls.filter _).map _).append_left _

/-- **The rules over a log whose issues come later** give the same status, or a degraded one. -/
theorem SourceLog.statusOf_postponed {log log' : List LogEntry}
    (packets : SourceLog.packets log = SourceLog.packets log')
    (times : (SourceLog.issueTimes log).Perm (SourceLog.issueTimes log'))
    (normal : SourceLog.normalSinceIssue log' ≤ SourceLog.normalSinceIssue log)
    (nowTimestampNs : BitVec 64) :
    SourceLog.statusOf config log' nowTimestampNs = SourceLog.statusOf config log nowTimestampNs ∨
      SourceLog.statusOf config log' nowTimestampNs = .kDegraded := by
  have hlast : SourceLog.last log' = SourceLog.last log := by
    rw [SourceLog.last, SourceLog.last, packets]
  have htimes : (SourceLog.issueTimes log').foldl max 0 = (SourceLog.issueTimes log).foldl max 0 :=
    times.symm.foldl_eq 0
  have hseen : SourceLog.issueTimes log' ≠ [] ↔ SourceLog.issueTimes log ≠ [] :=
    not_congr ⟨fun h => List.perm_nil.mp (h ▸ times), fun h => List.perm_nil.mp (h ▸ times.symm)⟩
  unfold SourceLog.statusOf
  dsimp only
  rw [hlast, htimes, packets]
  by_cases hoffline : (nowTimestampNs.toNat - SourceLog.last log : Int) ≥ config.offlineAfter.toInt
  · rw [if_pos hoffline, if_pos hoffline]
    exact Or.inl rfl
  · rw [if_neg hoffline, if_neg hoffline]
    by_cases hdegraded : (nowTimestampNs.toNat - SourceLog.last log : Int) ≥
          config.degradedAfter.toInt ∨
        SourceLog.issueTimes log' ≠ [] ∧
          ((nowTimestampNs.toNat - (SourceLog.issueTimes log).foldl max 0 : Int) <
              config.recoveryAfter.toInt ∨
            SourceLog.normalSinceIssue log' < config.healthyAfterPackets.toNat)
    · rw [if_pos hdegraded]
      exact Or.inr rfl
    · -- with less evidence of recovery it is not degraded, so with more it is not either
      have hbefore : ¬ ((nowTimestampNs.toNat - SourceLog.last log : Int) ≥
            config.degradedAfter.toInt ∨
          SourceLog.issueTimes log ≠ [] ∧
            ((nowTimestampNs.toNat - (SourceLog.issueTimes log).foldl max 0 : Int) <
                config.recoveryAfter.toInt ∨
              SourceLog.normalSinceIssue log < config.healthyAfterPackets.toNat)) := by
        rintro (hsilent | ⟨hissues, hrecovering | hunproven⟩)
        · exact hdegraded (Or.inl hsilent)
        · exact hdegraded (Or.inr ⟨hseen.mpr hissues, Or.inl hrecovering⟩)
        · exact hdegraded (Or.inr ⟨hseen.mpr hissues, Or.inr (Nat.lt_of_le_of_lt normal hunproven)⟩)
      rw [if_neg hdegraded, if_neg hbefore]
      exact Or.inl rfl

/-- **Worker issue reports commute with packet observation, except for recovery evidence.** Two runs
observe the same packets in the same order and report the same issues, each after its packet. Their
reports have the same metrics and the same snapshots but for the status; and if the second run makes
every issue no earlier than the first, a source has the same status in the second report or is
degraded there. -/
theorem issues_commute (config : SourceHealthMonitorConfig) (monitor : SourceHealthMonitor)
    (made : SourceHealthMonitor.make config = .ok monitor) (events events' : List HealthEvent)
    (heralded : Heralded events) (heralded' : Heralded events')
    (packets : observedPackets events = observedPackets events')
    (calls : (issueCalls events).Perm (issueCalls events')) (nowTimestampNs : BitVec 64) :
    let report := (monitor.runEvents events).1.report nowTimestampNs
    let report' := (monitor.runEvents events').1.report nowTimestampNs
    report.streamMetrics = report'.streamMetrics ∧
      report.sources.map SourceHealthSnapshot.withoutStatus =
        report'.sources.map SourceHealthSnapshot.withoutStatus ∧
      (Postponed events events' →
        ∀ snapshot ∈ report.sources, ∀ snapshot' ∈ report'.sources,
          snapshot'.source = snapshot.source →
          snapshot'.status = snapshot.status ∨ snapshot'.status = .kDegraded) := by
  intro report report'
  obtain ⟨accepted, _⟩ := make_eq_ok made
  refine ⟨(report_packetFields made packets nowTimestampNs nowTimestampNs).1, ?_, ?_⟩
  · refine map_report_sources made packets SourceHealthSnapshot.withoutStatus (fun _ => rfl)
      fun source _ => ?_
    have hcounter (kind : SourceHealthIssue) :
        (replay (ownLog source (monitor.runEvents events).2)).issueCounter kind =
          (replay (ownLog source (monitor.runEvents events').2)).issueCounter kind := by
      refine BitVec.eq_of_toNat_eq ?_
      rw [toNat_issueCounter_replay, toNat_issueCounter_replay, ownLog_of_heralded _ heralded,
        ownLog_of_heralded _ heralded', issuePackets_eventsOf, issuePackets_eventsOf,
        issuePackets_eq, issuePackets_eq kind events']
      rw [((calls.filterMap _).filter _).length_eq]
    rw [withoutStatus_makeSnapshot, withoutStatus_makeSnapshot, packetSide_ownLog packets,
      hcounter, hcounter]
  · intro postponed snapshot hsnapshot snapshot' hsnapshot' hsource
    obtain ⟨source, hadmitted, rfl⟩ := (mem_report_sources made).mp hsnapshot
    obtain ⟨source', hadmitted', rfl⟩ := (mem_report_sources made).mp hsnapshot'
    have hsame : source' = source := hsource
    subst hsame
    have hstatus {events : List HealthEvent}
        (isAdmitted : source' ∈ admitted config.maxSources (packetSources events)) :
        (replay (ownLog source' (monitor.runEvents events).2)).evaluateStatus config
            nowTimestampNs =
          SourceLog.statusOf config (ownLog source' (monitor.runEvents events).2)
            nowTimestampNs := by
      have htracked := (report_of_admitted made events nowTimestampNs isAdmitted).1
      exact (logged_replay htracked).evaluateStatus_eq accepted nowTimestampNs
    change SourceState.evaluateStatus _ _ _ = SourceState.evaluateStatus _ _ _ ∨
      SourceState.evaluateStatus _ _ _ = _
    rw [hstatus hadmitted, hstatus hadmitted']
    refine SourceLog.statusOf_postponed ?_ ?_ ?_ nowTimestampNs
    · exact packets_ownLog_eq packets source'
    · exact issueTimes_ownLog_perm heralded heralded' packets calls source'
    · exact normalSinceIssue_postponed heralded heralded' packets postponed source'

/-- A rejected payload, reported at once or after two more packets: a second after the issue, what was
enough evidence of recovery is not. -/
theorem issues_commute_late :
    let monitor : SourceHealthMonitor :=
      { config := {}, streamTracker := { config := { maxSources := 256 } } }
    let later : ReceivedPacket := { numbered 11 with receiveTimestampNs := 900000000 }
    let last : ReceivedPacket := { numbered 12 with receiveTimestampNs := 1000000000 }
    let early := monitor.runEvents [.packet (numbered 10), .issue (numbered 10) .kPayloadRejected,
      .packet later, .packet last]
    let late := monitor.runEvents [.packet (numbered 10), .packet later, .packet last,
      .issue (numbered 10) .kPayloadRejected]
    (early.1.report 1100000000).sources.map (·.status) = [.kHealthy] ∧
      (late.1.report 1100000000).sources.map (·.status) = [.kDegraded] ∧
      (early.1.report 1100000000).streamMetrics = (late.1.report 1100000000).streamMetrics ∧
      (early.1.report 1100000000).sources.map SourceHealthSnapshot.withoutStatus =
        (late.1.report 1100000000).sources.map SourceHealthSnapshot.withoutStatus ∧
      ∀ snapshot ∈ (early.1.report 1100000000).sources,
        ∀ snapshot' ∈ (late.1.report 1100000000).sources,
          snapshot'.source = snapshot.source →
          snapshot'.status = snapshot.status ∨ snapshot'.status = .kDegraded := by
  intro monitor later last early late
  have hearly : Heralded [.packet (numbered 10), .issue (numbered 10) .kPayloadRejected,
      .packet later, .packet last] :=
    (((Heralded.nil.packet _).issue (by decide) _).packet _).packet _
  have hlate : Heralded [.packet (numbered 10), .packet later, .packet last,
      .issue (numbered 10) .kPayloadRejected] :=
    (((Heralded.nil.packet _).packet _).packet _).issue (by decide) _
  obtain ⟨hmetrics, hsnapshots, hstatus⟩ := issues_commute {} monitor rfl _ _ hearly hlate rfl
    (List.Perm.refl _) 1100000000
  refine ⟨by decide +kernel, by decide +kernel, hmetrics, hsnapshots,
    hstatus ⟨_, List.Perm.refl _, ?_⟩⟩
  exact List.Forall₂.cons ⟨rfl, by decide⟩ List.Forall₂.nil

end Orders

end Driveflow.Runtime
