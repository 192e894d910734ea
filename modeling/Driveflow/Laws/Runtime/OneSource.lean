import Driveflow.Laws.Runtime.Tables

/-!
# One source through the tracker

A run of packets of one source, through a fresh tracker with room for it, is judged packet by packet
as the unbounded history of that source says (`verdicts`). The counters count the verdicts, modulo
their word, and the missing samples add up until they saturate (`observeAll_counts`). What is said
about such a run from here on is said about positions.
-/

namespace Driveflow.Runtime

open Library Net Protocol SensorStreamTracker

/-! ## Verdicts -/

/-- The history with one more sequence number. -/
def advance (history : Option History) (sequenceNumber : BitVec 64) : Option History :=
  match history with
  | none => some (History.start sequenceNumber.toNat)
  | some history => some (history.record (Serial.position history.high sequenceNumber))

/-- What the specification says of each sequence number in turn. -/
def verdictsFrom : Option History → List (BitVec 64) → List (SequenceStatus × Int)
  | _, [] => []
  | history, sequenceNumber :: rest =>
    expectedStatus history sequenceNumber :: verdictsFrom (advance history sequenceNumber) rest

def verdicts (sequenceNumbers : List (BitVec 64)) : List (SequenceStatus × Int) :=
  verdictsFrom none sequenceNumbers

theorem sequenceHistory_concat (sequenceNumbers : List (BitVec 64)) (sequenceNumber : BitVec 64) :
    sequenceHistory (sequenceNumbers ++ [sequenceNumber]) =
      advance (sequenceHistory sequenceNumbers) sequenceNumber :=
  sequenceHistory_append_singleton sequenceNumbers sequenceNumber

theorem verdicts_concat (sequenceNumbers : List (BitVec 64)) (sequenceNumber : BitVec 64) :
    verdicts (sequenceNumbers ++ [sequenceNumber]) =
      verdicts sequenceNumbers ++
        [expectedStatus (sequenceHistory sequenceNumbers) sequenceNumber] := by
  have hfrom (history : Option History) :
      verdictsFrom history (sequenceNumbers ++ [sequenceNumber]) =
        verdictsFrom history sequenceNumbers ++
          [expectedStatus (sequenceNumbers.foldl advance history) sequenceNumber] := by
    induction sequenceNumbers generalizing history with
    | nil => rfl
    | cons first rest ih =>
      rw [List.cons_append, verdictsFrom, verdictsFrom, ih, List.foldl_cons, List.cons_append]
  exact hfrom none

/-- One more verdict, counted by status. -/
theorem countP_status_concat (judged : List (SequenceStatus × Int))
    (verdict : SequenceStatus × Int) (status : SequenceStatus) :
    (judged ++ [verdict]).countP (fun verdict => verdict.1 = status) =
      judged.countP (fun verdict => verdict.1 = status) + if verdict.1 = status then 1 else 0 := by
  rw [List.countP_append, List.countP_singleton]
  exact congrArg _ (if_congr decide_eq_true_iff rfl rfl)

theorem length_verdicts (sequenceNumbers : List (BitVec 64)) :
    (verdicts sequenceNumbers).length = sequenceNumbers.length := by
  induction sequenceNumbers using List.reverseRecOn with
  | nil => rfl
  | append_singleton sequenceNumbers sequenceNumber ih =>
    rw [verdicts_concat, List.length_append, List.length_append, ih]
    rfl

/-! ## The tracker gives the verdicts -/

/-- An observation with the status and the missing samples of a verdict. -/
def SequenceObservation.Matches (observation : SequenceObservation)
    (verdict : SequenceStatus × Int) : Prop :=
  observation.status = verdict.1 ∧ (observation.missingSamples.toNat : Int) = verdict.2

theorem observeEach_concat (tracker : SensorStreamTracker) (packets : List ReceivedPacket)
    (packet : ReceivedPacket) :
    tracker.observeEach (packets ++ [packet]) =
      tracker.observeEach packets ++ [((tracker.observeAll packets).observe packet).2] := by
  induction packets generalizing tracker with
  | nil => rfl
  | cons first rest ih => exact congrArg _ (ih (tracker.observe first).1)

/-- The metrics tally the observations. -/
theorem observeAll_metrics (tracker : SensorStreamTracker) (packets : List ReceivedPacket) :
    (tracker.observeAll packets).metrics =
      (tracker.observeEach packets).foldl SensorStreamMetrics.tally tracker.metrics := by
  induction packets generalizing tracker with
  | nil => rfl
  | cons first rest ih =>
    refine (ih (tracker.observe first).1).trans ?_
    rw [observe_tally]
    rfl

section OneSource

variable {config : SensorStreamTrackerConfig} (positive : 0 < config.maxSources)
  {source : SensorSource} {packets : List ReceivedPacket}
  (alone : ∀ packet ∈ packets, identifySensorSource packet = source)

include positive alone

/-- The record of the source stands for its history. -/
theorem lookup_oneSource :
    Option.Rel Tracks ((observeAll { config } packets).sources.lookup source)
      (sequenceHistory (packets.map fun packet => packet.packet.header.sequenceNumber)) := by
  have hlookup := observeAll_lookup config packets source
  have hnumbers : sequenceNumbersOf source packets =
      packets.map fun packet => packet.packet.header.sequenceNumber := by
    rw [sequenceNumbersOf, List.filter_eq_self.mpr fun packet h => decide_eq_true (alone packet h)]
  rw [hnumbers] at hlookup
  cases packets with
  | nil => exact Option.Rel.none
  | cons packet rest =>
    have hcame : source ∈ (packet :: rest).map identifySensorSource :=
      List.mem_map.mpr ⟨packet, List.mem_cons_self, alone packet List.mem_cons_self⟩
    have hkeys : ∀ key ∈ (packet :: rest).map identifySensorSource, key = source := by
      intro key hkey
      obtain ⟨other, hother, rfl⟩ := List.mem_map.mp hkey
      exact alone other hother
    have halone := eraseDups_of_forall_eq hkeys hcame
    have hadmitted : source ∈ admittedSources config (packet :: rest) := by
      rw [admittedSources, admitted_of_few (halone ▸ positive), halone]
      exact List.mem_cons_self
    rwa [if_pos hadmitted] at hlookup

/-- **One more packet gets the verdict of the history.** -/
theorem observe_oneSource {packet : ReceivedPacket} (next : identifySensorSource packet = source) :
    ((observeAll { config } packets).observe packet).2.Matches
      (expectedStatus
        (sequenceHistory (packets.map fun packet => packet.packet.header.sequenceNumber))
        packet.packet.header.sequenceNumber) := by
  have hrecord := lookup_oneSource positive alone
  have hobservation := observe_observation (observeAll { config } packets) packet
  rw [next] at hobservation
  rw [hobservation, (observeAll_sources { config } packets).2]
  cases packets with
  | nil => exact (if_pos positive).symm ▸ ⟨rfl, rfl⟩
  | cons first rest =>
    have hsome : (sequenceHistory ((first :: rest).map fun packet =>
        packet.packet.header.sequenceNumber)).isSome = true := by
      obtain ⟨earlier, last, hlast⟩ := List.eq_nil_or_concat' (first :: rest) |>.resolve_left
        (List.cons_ne_nil _ _)
      rw [hlast, List.map_append, List.map_singleton, sequenceHistory_concat]
      unfold advance
      cases sequenceHistory (earlier.map _) with
      | none => rfl
      | some history => rfl
    generalize (observeAll { config } (first :: rest)).sources.lookup source = state at hrecord ⊢
    generalize sequenceHistory ((first :: rest).map _) = history at hrecord hsome ⊢
    cases hrecord with
    | none => cases hsome
    | some htracks =>
      obtain ⟨_, hstatus, hmissing⟩ := (tracks_observe htracks {}
        packet.packet.header.sequenceNumber).2
      exact ⟨hstatus, hmissing⟩

/-- **The observations match the verdicts.** -/
theorem observeEach_matches :
    List.Forall₂ SequenceObservation.Matches (observeEach { config } packets)
      (verdicts (packets.map fun packet => packet.packet.header.sequenceNumber)) := by
  induction packets using List.reverseRecOn with
  | nil => exact List.Forall₂.nil
  | append_singleton packets packet ih =>
    have hearlier : ∀ packet ∈ packets, identifySensorSource packet = source :=
      fun packet h => alone packet (List.mem_append_left _ h)
    have hlast := observe_oneSource positive hearlier
      (alone packet (List.mem_append_right _ List.mem_cons_self))
    rw [List.map_append, List.map_singleton, verdicts_concat, observeEach_concat]
    exact List.rel_append (ih hearlier) (List.Forall₂.cons hlast List.Forall₂.nil)

end OneSource

/-- What the counters of a one-source run say about its verdicts. -/
structure CountsVerdicts (metrics : SensorStreamMetrics) (judged : List (SequenceStatus × Int)) :
    Prop where
  observed : metrics.packetsObserved = BitVec.ofNat 64 judged.length
  counted : ∀ status, metrics.statusCounter status =
    BitVec.ofNat 64 (judged.countP fun verdict => verdict.1 = status)
  missing : (metrics.missingSamplesInferred.toNat : Int) =
    min (judged.map Prod.snd).sum (2 ^ 64 - 1)

section Matches

variable {observations : List SequenceObservation} {judged : List (SequenceStatus × Int)}
  (hmatches : List.Forall₂ SequenceObservation.Matches observations judged)

include hmatches

/-- Observations that match the verdicts have as many of each status. -/
theorem countP_of_matches (status : SequenceStatus) :
    observations.countP (fun observation => observation.status = status) =
      judged.countP fun verdict => verdict.1 = status := by
  induction hmatches with
  | nil => rfl
  | cons hmatch _ ih => rw [List.countP_cons, List.countP_cons, ih, hmatch.1]

/-- Observations that match the verdicts miss as many samples. -/
theorem sum_of_matches :
    (((observations.map fun observation => observation.missingSamples.toNat).sum : Nat) : Int) =
      (judged.map Prod.snd).sum := by
  induction hmatches with
  | nil => rfl
  | cons hmatch _ ih =>
    rw [List.map_cons, List.sum_cons, List.map_cons, List.sum_cons, Nat.cast_add, ih, hmatch.2]

/-- A tally of matching observations. -/
theorem countsVerdicts_of_matches
    (silent : ∀ verdict ∈ judged, verdict.1 ≠ .kGap → verdict.2 = 0) :
    CountsVerdicts (observations.foldl SensorStreamMetrics.tally {}) judged where
  observed := by
    have hstart : ({} : SensorStreamMetrics).packetsObserved = 0#64 := rfl
    rw [foldl_counter SensorStreamMetrics.tally SensorStreamMetrics.packetsObserved (fun _ => true)
      tally_packetsObserved, List.countP_true, hmatches.length_eq, hstart, BitVec.zero_add]
  counted status := by
    have hstart : ({} : SensorStreamMetrics).statusCounter status = 0#64 := by
      cases status <;> rfl
    rw [foldl_counter SensorStreamMetrics.tally (fun metrics => metrics.statusCounter status)
      (fun observation => decide (observation.status = status))
      (fun metrics observation => statusCounter_tally metrics observation status), hstart,
      BitVec.zero_add, countP_of_matches hmatches]
  missing := by
    have hsilent : ∀ observation ∈ observations,
        observation.status ≠ .kGap → observation.missingSamples = 0 := by
      induction hmatches with
      | nil => exact fun _ h => absurd h List.not_mem_nil
      | @cons first verdict _ _ hmatch _ ih =>
        intro observation hmem hother
        rcases List.mem_cons.mp hmem with rfl | hmem
        · have hzero := silent verdict List.mem_cons_self (hmatch.1 ▸ hother)
          rw [← hmatch.2] at hzero
          exact BitVec.eq_of_toNat_eq (Int.natCast_eq_zero.mp hzero)
        · exact ih (fun verdict h => silent verdict (List.mem_cons_of_mem _ h)) observation hmem
            hother
    rw [toNat_missingSamplesInferred hsilent, ← sum_of_matches hmatches]
    omega

end Matches

theorem classify_silent (history : History) (position : Int)
    (h : (classify history position).1 ≠ .kGap) : (classify history position).2 = 0 := by
  unfold classify at h ⊢
  split
  · rfl
  next hnext =>
    rw [if_neg hnext] at h
    split
    next hahead =>
      rw [if_pos hahead] at h
      exact absurd rfl h
    next => split <;> rfl

/-- Only a gap misses samples. -/
theorem verdicts_silent {sequenceNumbers : List (BitVec 64)} :
    ∀ verdict ∈ verdicts sequenceNumbers, verdict.1 ≠ .kGap → verdict.2 = 0 := by
  induction sequenceNumbers using List.reverseRecOn with
  | nil => exact fun _ h => absurd h List.not_mem_nil
  | append_singleton sequenceNumbers sequenceNumber ih =>
    rw [verdicts_concat]
    intro verdict hmem hother
    rcases List.mem_append.mp hmem with hmem | hmem
    · exact ih verdict hmem hother
    · obtain rfl := List.mem_singleton.mp hmem
      unfold expectedStatus at hother ⊢
      revert hother
      cases sequenceHistory sequenceNumbers with
      | none => exact fun _ => rfl
      | some history => exact classify_silent history _

/-- **The counters of a one-source run count its verdicts.** -/
theorem observeAll_counts {config : SensorStreamTrackerConfig} (positive : 0 < config.maxSources)
    {source : SensorSource} {packets : List ReceivedPacket}
    (alone : ∀ packet ∈ packets, identifySensorSource packet = source) :
    CountsVerdicts (observeAll { config } packets).metrics
      (verdicts (packets.map fun packet => packet.packet.header.sequenceNumber)) := by
  rw [observeAll_metrics]
  exact countsVerdicts_of_matches (observeEach_matches positive alone) verdicts_silent

end Driveflow.Runtime
