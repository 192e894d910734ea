import Driveflow.Library.SlidingWindow
import Driveflow.Runtime.SensorStreamTracker

/-!
# Sequence tracking against an unbounded history

The tracker keeps two words for a source. The specification keeps every position the source ever
sent, unwrapped to an integer, and classifies a packet against that set (`classify`).

`Tracks` relates the two: the highest sequence number is the residue of the high-water mark, and the
bitmap remembers the last 64 positions. One packet preserves it and is classified alike
(`tracks_observe`); the table is a bounded machine (`observe_sources`), so the relation carries over
to every run of packets from any mix of sources (`observeAll_lookup`).
-/

namespace Driveflow.Runtime

open Library Net Protocol SensorStreamTracker

/-! ## The specification -/

/-- The positions of a source, from its sequence numbers in the order of arrival: the first is its
own position, each later one is unwrapped against the high-water mark of its moment. -/
def sequenceHistory (sequenceNumbers : List (BitVec 64)) : Option History :=
  sequenceNumbers.foldl
    (fun history sequenceNumber =>
      match history with
      | none => some (History.start sequenceNumber.toNat)
      | some history => some (history.record (Serial.position history.high sequenceNumber)))
    none

theorem sequenceHistory_append_singleton (sequenceNumbers : List (BitVec 64))
    (sequenceNumber : BitVec 64) :
    sequenceHistory (sequenceNumbers ++ [sequenceNumber]) =
      match sequenceHistory sequenceNumbers with
      | none => some (History.start sequenceNumber.toNat)
      | some history =>
        some (history.record (Serial.position history.high sequenceNumber)) := by
  rw [sequenceHistory, List.foldl_append]
  rfl

/-- The status of a position against everything seen before it, and how many positions it skips. -/
def classify (history : History) (position : Int) : SequenceStatus × Int :=
  if position = history.high + 1 then (.kInOrder, 0)
  else if history.high + 1 < position then (.kGap, position - history.high - 1)
  else if history.high - position < 64 ∧ position ∈ history.seen then (.kDuplicate, 0)
  else (.kReordered, 0)

/-- What the specification says of a packet of an admitted source. -/
def expectedStatus (history : Option History) (sequenceNumber : BitVec 64) :
    SequenceStatus × Int :=
  match history with
  | none => (.kFirst, 0)
  | some history => classify history (Serial.position history.high sequenceNumber)

/-- An observation that says just this. -/
def SequenceObservation.Says (observation : SequenceObservation) (sequenceNumber : BitVec 64)
    (status : SequenceStatus × Int) : Prop :=
  observation.sequenceNumber = sequenceNumber ∧ observation.status = status.1 ∧
    (observation.missingSamples.toNat : Int) = status.2

theorem classify_next (history : History) :
    classify history (history.high + 1) = (.kInOrder, 0) := if_pos rfl

/-- A number ahead of the next one is a gap of those between. -/
theorem classify_ahead (history : History) {d : Nat} (h : 1 < d) :
    classify history (history.high + d) = (.kGap, ((d - 1 : Nat) : Int)) := by
  have hskipped : history.high + d - history.high - 1 = ((d - 1 : Nat) : Int) := by omega
  rw [classify, if_neg (by omega), if_pos (by omega), hskipped]

/-- A number that was seen is a duplicate while it is in the window. -/
theorem classify_seen {history : History} {d : Nat} (inside : d < 64)
    (seen : history.high - d ∈ history.seen) :
    classify history (history.high - d) = (.kDuplicate, 0) := by
  rw [classify, if_neg (by omega), if_neg (by omega), if_pos ⟨by omega, seen⟩]

/-- An older number that is not known to be seen came out of order. -/
theorem classify_late {history : History} {d : Nat}
    (unseen : d < 64 → history.high - d ∉ history.seen) :
    classify history (history.high - d) = (.kReordered, 0) := by
  rw [classify, if_neg (by omega), if_neg (by omega), if_neg]
  rintro ⟨hinside, hseen⟩
  exact unseen (by omega) hseen

/-! ## One source -/

/-- The two words of a source stand for its history. -/
structure Tracks (state : SourceState) (history : History) : Prop where
  highest : state.highestSequence = BitVec.ofInt 64 history.high
  recent : Remembers state.recentSequences history

/-- The two words of a source after its first packet. -/
theorem tracks_start (sequenceNumber : BitVec 64) :
    Tracks { highestSequence := sequenceNumber, recentSequences := 1#64 }
      (History.start sequenceNumber.toNat) where
  highest := by
    change sequenceNumber = BitVec.ofInt 64 (sequenceNumber.toNat : Int)
    rw [BitVec.ofInt_natCast, BitVec.ofNat_toNat, BitVec.setWidth_eq]
  recent := Remembers.start _

/-- The three places a packet can be, by its modular distance from the mark. -/
private theorem position_cases (high : Int) (sequenceNumber : BitVec 64) :
    (sequenceNumber - BitVec.ofInt 64 high = 0 ∧ Serial.position high sequenceNumber = high) ∨
    (∃ d : Nat, 0 < d ∧ d < 2 ^ 63 ∧ (sequenceNumber - BitVec.ofInt 64 high).toNat = d ∧
      Serial.position high sequenceNumber = high + d) ∨
    (∃ d : Nat, 0 < d ∧ d ≤ 2 ^ 63 ∧ (sequenceNumber - BitVec.ofInt 64 high).toNat = 2 ^ 64 - d ∧
      (BitVec.ofInt 64 high - sequenceNumber).toNat = d ∧
      Serial.position high sequenceNumber = high - d) := by
  have hlt := (sequenceNumber - BitVec.ofInt 64 high).isLt
  unfold Serial.position
  dsimp only
  by_cases hzero : sequenceNumber - BitVec.ofInt 64 high = 0
  · refine Or.inl ⟨hzero, ?_⟩
    rw [hzero]
    exact Int.add_zero high
  · have hpos : 0 < (sequenceNumber - BitVec.ofInt 64 high).toNat := by
      rw [Nat.pos_iff_ne_zero]
      exact fun h => hzero (BitVec.eq_of_toNat_eq h)
    refine Or.inr ?_
    by_cases hhalf : (sequenceNumber - BitVec.ofInt 64 high).toNat < 2 ^ (64 - 1)
    · exact Or.inl ⟨_, hpos, hhalf, rfl, if_pos hhalf⟩
    · have hback : (BitVec.ofInt 64 high - sequenceNumber).toNat =
          2 ^ 64 - (sequenceNumber - BitVec.ofInt 64 high).toNat := by
        rw [BitVec.toNat_sub, BitVec.toNat_sub] at *
        omega
      refine Or.inr ⟨2 ^ 64 - (sequenceNumber - BitVec.ofInt 64 high).toNat, ?_, ?_, ?_, hback,
        if_neg hhalf⟩ <;> omega

section Observe

variable {state : SourceState} {history : History} {sequenceNumber : BitVec 64} {d : Nat}

/-- The mark itself, again. -/
private theorem tracks_observe_mark (h : Tracks state history) (metrics : SensorStreamMetrics)
    (again : sequenceNumber - BitVec.ofInt 64 history.high = 0) :
    Tracks (state.observe metrics sequenceNumber).1 (history.record history.high) ∧
      (state.observe metrics sequenceNumber).2.2.Says sequenceNumber
        (classify history history.high) := by
  have hself : history.high - (0 : Nat) = history.high := Int.sub_zero _
  have htop : history.high - (0 : Nat) ∈ history.seen := hself.symm ▸ history.top
  have hseen := classify_seen (by decide) htop
  rw [hself] at hseen
  unfold SourceState.observe
  dsimp only
  rw [h.highest, if_pos again, hseen]
  refine ⟨⟨?_, h.recent.again history.top⟩, rfl, rfl, rfl⟩
  rw [History.high_record_of_le (Int.le_refl _)]
  exact h.highest

/-- Ahead of the mark: the next one, or behind a gap. -/
private theorem tracks_observe_ahead (h : Tracks state history) (metrics : SensorStreamMetrics)
    (hd : 0 < d) (hhalf : d < 2 ^ 63)
    (forward : (sequenceNumber - BitVec.ofInt 64 history.high).toNat = d)
    (residue : BitVec.ofInt 64 (history.high + d) = sequenceNumber) :
    Tracks (state.observe metrics sequenceNumber).1 (history.record (history.high + d)) ∧
      (state.observe metrics sequenceNumber).2.2.Says sequenceNumber
        (classify history (history.high + d)) := by
  have hne : sequenceNumber - BitVec.ofInt 64 history.high ≠ 0 := by
    intro hz
    rw [hz] at forward
    exact absurd forward.symm (Nat.ne_of_gt hd)
  have hahead : sequenceNumber - BitVec.ofInt 64 history.high < kSequenceHalfRange := by
    rw [BitVec.lt_def, forward]
    exact hhalf
  have hmissing : (sequenceNumber - BitVec.ofInt 64 history.high - 1).toNat = d - 1 := by
    rw [BitVec.toNat_sub_of_le, forward]
    · rfl
    · rw [BitVec.le_def, forward]
      exact hd
  have hstate : Tracks
      { highestSequence := sequenceNumber
        recentSequences :=
          if sequenceNumber - BitVec.ofInt 64 history.high ≥ kRecentSequenceCount then 1#64
          else state.recentSequences <<<
            (sequenceNumber - BitVec.ofInt 64 history.high).toNat ||| 1#64 }
      (history.record (history.high + d)) := by
    constructor
    · rw [History.high_record_of_ge (by omega)]
      exact residue.symm
    · rw [forward]
      dsimp only
      split
      next hlarge =>
        rw [ge_iff_le, BitVec.le_def, forward] at hlarge
        exact Remembers.reset hlarge hd
      next _ => exact h.recent.shift hd
  unfold SourceState.observe
  dsimp only
  rw [h.highest, if_neg hne, if_pos hahead]
  by_cases hone : sequenceNumber - BitVec.ofInt 64 history.high - 1 = 0
  · have hd1 : d = 1 := by
      rw [hone] at hmissing
      exact Nat.le_antisymm (Nat.sub_eq_zero_iff_le.mp hmissing.symm) hd
    rw [if_pos hone]
    subst hd1
    rw [Nat.cast_one, classify_next]
    exact ⟨hstate, rfl, rfl, rfl⟩
  · have hd1 : d ≠ 1 := by
      rintro rfl
      exact hone (BitVec.eq_of_toNat_eq hmissing)
    rw [if_neg hone, classify_ahead history (Nat.lt_of_le_of_ne hd hd1.symm)]
    exact ⟨hstate, rfl, rfl, congrArg Nat.cast hmissing⟩

/-- Behind the mark, which stays: only the bitmap has to follow. -/
private theorem tracks_observe_behind (h : Tracks state history) (metrics : SensorStreamMetrics)
    (hd : 0 < d) (hhalf : d ≤ 2 ^ 63)
    (forward : (sequenceNumber - BitVec.ofInt 64 history.high).toNat = 2 ^ 64 - d)
    (backward : (BitVec.ofInt 64 history.high - sequenceNumber).toNat = d) :
    Tracks (state.observe metrics sequenceNumber).1 (history.record (history.high - d)) ∧
      (state.observe metrics sequenceNumber).2.2.Says sequenceNumber
        (classify history (history.high - d)) := by
  have hne : sequenceNumber - BitVec.ofInt 64 history.high ≠ 0 := by
    intro hz
    rw [hz] at forward
    have : (0 : BitVec 64).toNat = 0 := rfl
    omega
  have hbehind : ¬ sequenceNumber - BitVec.ofInt 64 history.high < kSequenceHalfRange := by
    rw [BitVec.lt_def, forward]
    have : kSequenceHalfRange.toNat = 2 ^ 63 := by decide
    omega
  have hmark {bits : BitVec 64} (hbits : Remembers bits (history.record (history.high - d))) :
      Tracks { highestSequence := BitVec.ofInt 64 history.high, recentSequences := bits }
        (history.record (history.high - d)) := by
    refine ⟨?_, hbits⟩
    rw [History.high_record_of_le (by omega)]
  have hsame : Remembers state.recentSequences (history.record (history.high - d)) →
      Tracks state (history.record (history.high - d)) := by
    intro hbits
    have hfields := hmark hbits
    rw [← h.highest] at hfields
    exact hfields
  unfold SourceState.observe
  dsimp only
  rw [h.highest, if_neg hne, if_neg hbehind, backward]
  by_cases hinside : d < 64
  · have hwindow : BitVec.ofInt 64 history.high - sequenceNumber < kRecentSequenceCount := by
      rw [BitVec.lt_def, backward]
      exact hinside
    have hbit : state.recentSequences &&& 1#64 <<< d ≠ 0 ↔ history.high - d ∈ history.seen :=
      (Remembers.mask_ne_zero_iff hinside).trans (h.recent d hinside)
    rw [if_pos hwindow]
    by_cases hseen : history.high - d ∈ history.seen
    · rw [if_pos (hbit.mpr hseen), classify_seen hinside hseen]
      exact ⟨hsame (h.recent.again hseen), rfl, rfl, rfl⟩
    · rw [if_neg (fun hset => hseen (hbit.mp hset)), classify_late fun _ => hseen]
      exact ⟨hmark h.recent.mark, rfl, rfl, rfl⟩
  · have hwindow : ¬ BitVec.ofInt 64 history.high - sequenceNumber < kRecentSequenceCount := by
      rw [BitVec.lt_def, backward]
      exact hinside
    rw [if_neg hwindow, classify_late fun h => absurd h hinside]
    exact ⟨hsame (h.recent.behind (Nat.le_of_not_lt hinside)), rfl, rfl, rfl⟩

end Observe

/-- **One packet of a known source**: it is classified as the history classifies its position, and
the two words stand for the history with that position recorded. -/
theorem tracks_observe {state : SourceState} {history : History} (h : Tracks state history)
    (metrics : SensorStreamMetrics) (sequenceNumber : BitVec 64) :
    Tracks (state.observe metrics sequenceNumber).1
        (history.record (Serial.position history.high sequenceNumber)) ∧
      (state.observe metrics sequenceNumber).2.2.Says sequenceNumber
        (classify history (Serial.position history.high sequenceNumber)) := by
  have hresidue := Serial.ofInt_position history.high sequenceNumber
  rcases position_cases history.high sequenceNumber with
    ⟨hzero, hpos⟩ | ⟨d, hd, hhalf, hforward, hpos⟩ | ⟨d, hd, hhalf, hforward, hbackward, hpos⟩
  · rw [hpos]
    exact tracks_observe_mark h metrics hzero
  · rw [hpos] at hresidue ⊢
    exact tracks_observe_ahead h metrics hd hhalf hforward hresidue
  · rw [hpos]
    exact tracks_observe_behind h metrics hd hhalf hforward hbackward

/-! ## Every source -/

/-- The words of a source after one more packet. -/
def SensorStreamTracker.SourceState.next (state : SourceState) (packet : ReceivedPacket) :
    SourceState :=
  (state.observe {} packet.packet.header.sequenceNumber).1

/-- The metrics are only written: they decide nothing. -/
theorem observe_metrics (state : SourceState) (metrics metrics' : SensorStreamMetrics)
    (sequenceNumber : BitVec 64) :
    (state.observe metrics sequenceNumber).1 = (state.observe metrics' sequenceNumber).1 ∧
      (state.observe metrics sequenceNumber).2.2 = (state.observe metrics' sequenceNumber).2.2 := by
  unfold SourceState.observe
  dsimp only
  by_cases hzero : sequenceNumber - state.highestSequence = 0
  · simp only [if_pos hzero, and_self]
  · rw [if_neg hzero, if_neg hzero]
    by_cases hahead : sequenceNumber - state.highestSequence < kSequenceHalfRange
    · rw [if_pos hahead, if_pos hahead]
      by_cases hone : sequenceNumber - state.highestSequence - 1 = 0
      · simp only [if_pos hone, and_self]
      · simp only [if_neg hone, and_self]
    · rw [if_neg hahead, if_neg hahead]
      split
      · split <;> exact ⟨rfl, rfl⟩
      · exact ⟨rfl, rfl⟩

/-- What a known source can be observed as: only a gap misses samples. -/
theorem observe_status (state : SourceState) (metrics : SensorStreamMetrics)
    (sequenceNumber : BitVec 64) :
    let observation := (state.observe metrics sequenceNumber).2.2
    observation.status ≠ .kFirst ∧ observation.status ≠ .kUntracked ∧
      (observation.status ≠ .kGap → observation.missingSamples = 0) := by
  unfold SourceState.observe
  dsimp only
  split
  · exact ⟨nofun, nofun, fun _ => rfl⟩
  · split
    · split
      · exact ⟨nofun, nofun, fun _ => rfl⟩
      · exact ⟨nofun, nofun, fun h => absurd rfl h⟩
    · split
      · split <;> exact ⟨nofun, nofun, fun _ => rfl⟩
      · exact ⟨nofun, nofun, fun _ => rfl⟩

/-- What one observation adds to the metrics. -/
def SensorStreamMetrics.tally (metrics : SensorStreamMetrics)
    (observation : SequenceObservation) : SensorStreamMetrics :=
  let metrics := { metrics with packetsObserved := metrics.packetsObserved + 1 }
  match observation.status with
  | .kFirst =>
    { metrics with
      streamsObserved := metrics.streamsObserved + 1
      firstObservations := metrics.firstObservations + 1 }
  | .kInOrder => { metrics with inOrderObservations := metrics.inOrderObservations + 1 }
  | .kGap =>
    { metrics with
      gapObservations := metrics.gapObservations + 1
      missingSamplesInferred :=
        saturatingAdd metrics.missingSamplesInferred observation.missingSamples }
  | .kDuplicate => { metrics with duplicateObservations := metrics.duplicateObservations + 1 }
  | .kReordered => { metrics with reorderedObservations := metrics.reorderedObservations + 1 }
  | .kUntracked => { metrics with untrackedObservations := metrics.untrackedObservations + 1 }

/-- **The metrics tally what is returned**, each observation under its own status. -/
theorem observe_tally (tracker : SensorStreamTracker) (packet : ReceivedPacket) :
    (tracker.observe packet).1.metrics = tracker.metrics.tally (tracker.observe packet).2 := by
  unfold SensorStreamTracker.observe
  dsimp only
  cases tracker.sources.lookup (identifySensorSource packet) with
  | none =>
    dsimp only
    split <;> rfl
  | some state =>
    dsimp only
    unfold SourceState.observe
    dsimp only
    by_cases hzero : packet.packet.header.sequenceNumber - state.highestSequence = 0
    · rw [if_pos hzero]
      rfl
    · rw [if_neg hzero]
      split
      · split <;> rfl
      · split
        · split <;> rfl
        · rfl

/-- Every observation is of a packet. -/
theorem tally_packetsObserved (metrics : SensorStreamMetrics)
    (observation : SequenceObservation) :
    (metrics.tally observation).packetsObserved = metrics.packetsObserved + 1 := by
  unfold SensorStreamMetrics.tally
  cases observation.status <;> rfl

/-- The table of a tracker, as a bounded machine over packets. -/
def trackerMachine (config : SensorStreamTrackerConfig) :
    BoundedMachine ReceivedPacket SensorSource SourceState where
  capacity := config.maxSources
  key := identifySensorSource
  create packet := some
    { highestSequence := packet.packet.header.sequenceNumber, recentSequences := 1#64 }
  step := SourceState.next

/-- One packet feeds the table. -/
theorem observe_sources (tracker : SensorStreamTracker) (packet : ReceivedPacket) :
    (tracker.observe packet).1.sources =
        (trackerMachine tracker.config).feed tracker.sources packet ∧
      (tracker.observe packet).1.config = tracker.config := by
  unfold SensorStreamTracker.observe BoundedMachine.feed trackerMachine
  dsimp only
  cases hlookup : tracker.sources.lookup (identifySensorSource packet) with
  | none =>
    dsimp only
    by_cases hfull : tracker.sources.size ≥ tracker.config.maxSources
    · rw [if_pos hfull, if_neg (Nat.not_lt.mpr hfull)]
      exact ⟨rfl, rfl⟩
    · rw [if_neg hfull, if_pos (Nat.lt_of_not_le hfull)]
      exact ⟨rfl, rfl⟩
  | some state =>
    dsimp only
    exact ⟨KeyedTable.modify_congr hlookup (observe_metrics _ _ _ _).1, rfl⟩

/-- What is returned, by what the table held of the packet's source. -/
theorem observe_observation (tracker : SensorStreamTracker) (packet : ReceivedPacket) :
    (tracker.observe packet).2 =
      match tracker.sources.lookup (identifySensorSource packet) with
      | none =>
        if tracker.sources.size < tracker.config.maxSources then
          { status := .kFirst, sequenceNumber := packet.packet.header.sequenceNumber }
        else { status := .kUntracked, sequenceNumber := packet.packet.header.sequenceNumber }
      | some state => (state.observe {} packet.packet.header.sequenceNumber).2.2 := by
  unfold SensorStreamTracker.observe
  dsimp only
  cases tracker.sources.lookup (identifySensorSource packet) with
  | none =>
    dsimp only
    by_cases hfull : tracker.sources.size ≥ tracker.config.maxSources
    · rw [if_pos hfull, if_neg (Nat.not_lt.mpr hfull)]
    · rw [if_neg hfull, if_pos (Nat.lt_of_not_le hfull)]
  | some state => exact (observe_metrics _ _ _ _).2

/-- **A run of packets runs the machine.** -/
theorem observeAll_sources (tracker : SensorStreamTracker) (packets : List ReceivedPacket) :
    (tracker.observeAll packets).sources =
        packets.foldl (trackerMachine tracker.config).feed tracker.sources ∧
      (tracker.observeAll packets).config = tracker.config := by
  induction packets using List.reverseRecOn with
  | nil => exact ⟨rfl, rfl⟩
  | append_singleton packets packet ih =>
    obtain ⟨hsources, hconfig⟩ := ih
    have hstep := observe_sources (tracker.observeAll packets) packet
    rw [hsources, hconfig] at hstep
    simp only [observeAll, List.foldl_append, List.foldl_cons, List.foldl_nil] at hstep ⊢
    exact hstep

/-- The machine's record of one source stands for the history of its sequence numbers. -/
theorem tracks_history (config : SensorStreamTrackerConfig) (packets : List ReceivedPacket) :
    Option.Rel Tracks ((trackerMachine config).history packets)
      (sequenceHistory (packets.map fun packet => packet.packet.header.sequenceNumber)) := by
  induction packets using List.reverseRecOn with
  | nil => exact Option.Rel.none
  | append_singleton packets packet ih =>
    rw [BoundedMachine.history_append_singleton, List.map_append, List.map_singleton,
      sequenceHistory_append_singleton]
    generalize (trackerMachine config).history packets = state at ih ⊢
    generalize sequenceHistory (packets.map _) = history at ih ⊢
    cases ih with
    | none => exact Option.Rel.some (tracks_start _)
    | some h => exact Option.Rel.some (tracks_observe h _ _).1

/-- The sequence numbers one source sent. -/
def sequenceNumbersOf (source : SensorSource) (packets : List ReceivedPacket) :
    List (BitVec 64) :=
  (packets.filter fun packet => identifySensorSource packet = source).map
    fun packet => packet.packet.header.sequenceNumber

/-- The sources a tracker admits from a run: the first ones to send. -/
def admittedSources (config : SensorStreamTrackerConfig) (packets : List ReceivedPacket) :
    List SensorSource :=
  admitted config.maxSources (packets.map identifySensorSource)

/-- A new source is admitted while there is room. -/
theorem admittedSources_append_singleton (config : SensorStreamTrackerConfig)
    (packets : List ReceivedPacket) (packet : ReceivedPacket) :
    admittedSources config (packets ++ [packet]) =
      if identifySensorSource packet ∈ admittedSources config packets then
        admittedSources config packets
      else if (admittedSources config packets).length < config.maxSources then
        admittedSources config packets ++ [identifySensorSource packet]
      else admittedSources config packets := by
  rw [admittedSources, List.map_append]
  exact admitted_append_singleton _ _ _

/-- Every packet asks for an entry. -/
theorem opened_trackerMachine (config : SensorStreamTrackerConfig)
    (packets : List ReceivedPacket) :
    (trackerMachine config).opened packets = packets.map identifySensorSource :=
  congrFun List.filterMap_eq_map packets

/-- A tracker holds the admitted sources. -/
theorem observeAll_keys (config : SensorStreamTrackerConfig) (packets : List ReceivedPacket) :
    (observeAll { config } packets).sources.keys = admittedSources config packets := by
  rw [(observeAll_sources _ packets).1, admittedSources, ← opened_trackerMachine config]
  exact (trackerMachine config).keys_run packets

/-- **A tracker's record of a source stands for that source's own history.** -/
theorem observeAll_lookup (config : SensorStreamTrackerConfig) (packets : List ReceivedPacket)
    (source : SensorSource) :
    Option.Rel Tracks ((observeAll { config } packets).sources.lookup source)
      (if source ∈ admittedSources config packets then
        sequenceHistory (sequenceNumbersOf source packets)
      else none) := by
  have hlookup := (trackerMachine config).lookup_run packets source
  rw [opened_trackerMachine] at hlookup
  rw [(observeAll_sources _ packets).1]
  refine Eq.subst (motive := fun value => Option.Rel Tracks value _) hlookup.symm ?_
  change Option.Rel Tracks (if source ∈ admittedSources config packets then _ else _) _
  split
  · exact tracks_history config _
  · exact Option.Rel.none

/-- A source that sent nothing has no history. -/
theorem sequenceHistory_eq_none {source : SensorSource} {packets : List ReceivedPacket}
    (h : source ∉ packets.map identifySensorSource) :
    sequenceHistory (sequenceNumbersOf source packets) = none := by
  have hnone : packets.filter (fun packet => identifySensorSource packet = source) = [] := by
    refine List.filter_eq_nil_iff.mpr fun packet hmem hsource => h ?_
    exact List.mem_map.mpr ⟨packet, hmem, of_decide_eq_true hsource⟩
  rw [sequenceNumbersOf, hnone]
  rfl

/-- A packet with a sequence number, from nowhere in particular. -/
def numbered (sequenceNumber : BitVec 64) : ReceivedPacket :=
  { packet := { header := { sequenceNumber } } }

/-- **Sequence tracking refines the unbounded history.** After any run of packets from any mix of
sources, the next packet of an admitted source is classified as the set of all positions that source
ever reached says; a packet of any other source is untracked. -/
theorem observe_refines (config : SensorStreamTrackerConfig) (tracker : SensorStreamTracker)
    (made : SensorStreamTracker.make config = .ok tracker) (before : List ReceivedPacket)
    (packet : ReceivedPacket) :
    let source := identifySensorSource packet
    let sequenceNumber := packet.packet.header.sequenceNumber
    let observation := ((tracker.observeAll before).observe packet).2
    (source ∈ admittedSources config (before ++ [packet]) →
      observation.Says sequenceNumber
        (expectedStatus (sequenceHistory (sequenceNumbersOf source before)) sequenceNumber)) ∧
    (source ∉ admittedSources config (before ++ [packet]) →
      observation.Says sequenceNumber (.kUntracked, 0)) := by
  intro source sequenceNumber observation
  have hfresh : tracker = { config } := by
    rw [SensorStreamTracker.make] at made
    split at made
    · cases made
    · exact (Except.ok.inj made).symm
  subst hfresh
  have hkeys := observeAll_keys config before
  have hconfig := (observeAll_sources { config } before).2
  have hrecord := observeAll_lookup config before source
  have hobservation : observation = _ := observe_observation (observeAll { config } before) packet
  rw [hconfig, ← KeyedTable.length_keys, hkeys] at hobservation
  rw [admittedSources_append_singleton]
  change observation = match (observeAll { config } before).sources.lookup source with
    | none => _
    | some state => _ at hobservation
  by_cases hadmitted : source ∈ admittedSources config before
  · rw [if_pos hadmitted] at hrecord ⊢
    refine ⟨fun _ => ?_, fun hnot => absurd hadmitted hnot⟩
    have hsome : ((observeAll { config } before).sources.lookup source).isSome = true :=
      KeyedTable.isSome_lookup_iff.mpr (hkeys ▸ hadmitted)
    generalize (observeAll { config } before).sources.lookup source = state at *
    generalize sequenceHistory (sequenceNumbersOf source before) = history at *
    cases hrecord with
    | none => cases hsome
    | some htracks =>
      rw [hobservation]
      exact (tracks_observe htracks {} sequenceNumber).2
  · have hnone : (observeAll { config } before).sources.lookup source = none :=
      KeyedTable.lookup_eq_none_iff.mpr (hkeys ▸ hadmitted)
    rw [if_neg hadmitted]
    rw [hnone] at hobservation
    by_cases hroom : (admittedSources config before).length < config.maxSources
    · -- the first packet of a source with room: nothing of it came before
      rw [if_pos hroom]
      refine ⟨fun _ => ?_, fun hnot => absurd (List.mem_append_right _ List.mem_cons_self) hnot⟩
      rw [sequenceHistory_eq_none fun hmem => hadmitted ((mem_admitted_of_room hroom).mpr hmem),
        hobservation]
      exact (if_pos hroom).symm ▸ ⟨rfl, rfl, rfl⟩
    · rw [if_neg hroom]
      refine ⟨fun hmem => absurd hmem hadmitted, fun _ => ?_⟩
      rw [hobservation]
      exact (if_neg hroom).symm ▸ ⟨rfl, rfl, rfl⟩

/-- Over the wrap from the last sequence number to zero. -/
theorem observe_refines_wrap :
    (((observeAll { config := {} } [numbered (BitVec.allOnes 64)]).observe (numbered 0)).2).Says 0
      (.kInOrder, 0) := by
  have h := (observe_refines {} { config := {} } rfl [numbered (BitVec.allOnes 64)] (numbered 0)).1
    (by decide)
  have hexpected : expectedStatus (sequenceHistory (sequenceNumbersOf
      (identifySensorSource (numbered 0)) [numbered (BitVec.allOnes 64)])) 0 = (.kInOrder, 0) := by
    decide
  exact hexpected ▸ h

end Driveflow.Runtime
