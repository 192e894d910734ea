import Driveflow.Laws.Runtime.OneSource

/-!
# Loss estimation from the counters

Between the first position and the mark some positions were never received. What the counters say of
them follows the verdicts one by one (`Estimates.step`): a position ahead of the mark adds what it
skips to both sides, a late one may fill a hole, and a duplicate changes nothing. A late one need
not fill a hole, since it may lie before the first position or have left the window, so the estimate
is a bound; where neither happens it is exact (`Exact.step`).
-/

namespace Driveflow.Runtime

open Library Net Protocol SensorStreamTracker

/-! ## Lost positions -/

/-- How many positions from `first` to the mark were never received. -/
noncomputable def lost (history : History) (first : Int) : Nat :=
  ((Finset.Icc first history.high).filter fun p => p ∉ history.seen).card

/-- How many distinct positions were received. -/
def distinct (history : History) : Nat := history.seen.toFinset.card

section Lost

variable {history : History} {first p : Int}

theorem mem_seen_record {q : Int} :
    q ∈ (history.record p).seen ↔ q = p ∨ q ∈ history.seen := List.mem_cons

/-- A position ahead of the mark leaves a hole of what it skips. -/
theorem lost_record_ahead (inside : first ≤ history.high) (ahead : history.high < p) :
    (lost (history.record p) first : Int) = lost history first + (p - history.high - 1) := by
  have hunseen : ∀ q, history.high < q → q ∉ history.seen := fun q hq hmem =>
    absurd (history.bounded q hmem) (not_le.mpr hq)
  have hsplit : (Finset.Icc first (history.record p).high).filter
      (fun q => q ∉ (history.record p).seen) =
      (Finset.Icc first history.high).filter (fun q => q ∉ history.seen) ∪
        Finset.Ioo history.high p := by
    ext q
    rw [History.high_record_of_ge (le_of_lt ahead)]
    simp only [Finset.mem_union, Finset.mem_filter, Finset.mem_Icc, Finset.mem_Ioo,
      mem_seen_record, not_or]
    constructor
    · rintro ⟨⟨hlow, hhigh⟩, hne, hq⟩
      by_cases hold : q ≤ history.high
      · exact .inl ⟨⟨hlow, hold⟩, hq⟩
      · exact .inr ⟨not_le.mp hold, lt_of_le_of_ne hhigh hne⟩
    · rintro (⟨⟨hlow, hhigh⟩, hq⟩ | ⟨hlow, hhigh⟩)
      · exact ⟨⟨hlow, hhigh.trans (le_of_lt ahead)⟩, ne_of_lt (lt_of_le_of_lt hhigh ahead), hq⟩
      · exact ⟨⟨inside.trans (le_of_lt hlow), le_of_lt hhigh⟩, ne_of_lt hhigh, hunseen q hlow⟩
  have hdisjoint : Disjoint ((Finset.Icc first history.high).filter fun q => q ∉ history.seen)
      (Finset.Ioo history.high p) := by
    rw [Finset.disjoint_left]
    intro q hq hq'
    have hbelow := (Finset.mem_Icc.mp (Finset.mem_filter.mp hq).1).2
    exact absurd hbelow (not_le.mpr (Finset.mem_Ioo.mp hq').1)
  rw [lost, hsplit, Finset.card_union_of_disjoint hdisjoint, Int.card_Ioo, Nat.cast_add, lost]
  omega

/-- A position that was received before changes nothing. -/
theorem lost_record_seen (seen : p ∈ history.seen) :
    lost (history.record p) first = lost history first := by
  have hsame : ∀ q, q ∈ (history.record p).seen ↔ q ∈ history.seen := fun q =>
    mem_seen_record.trans ⟨fun h => h.elim (fun heq => heq ▸ seen) id, .inr⟩
  unfold lost
  rw [History.high_record_of_le (history.bounded p seen)]
  simp only [hsame]

/-- A position behind the mark fills a hole, if it is not before the first. -/
theorem lost_record_behind (behind : p ≤ history.high) (fresh : p ∉ history.seen) :
    lost (history.record p) first + (if first ≤ p then 1 else 0) = lost history first := by
  unfold lost
  rw [History.high_record_of_le behind]
  have hset : ((Finset.Icc first history.high).filter fun q => q ∉ (history.record p).seen) =
      ((Finset.Icc first history.high).filter fun q => q ∉ history.seen).erase p := by
    ext q
    simp only [Finset.mem_erase, Finset.mem_filter, mem_seen_record, not_or]
    tauto
  have hmem : p ∈ ((Finset.Icc first history.high).filter fun q => q ∉ history.seen) ↔
      first ≤ p := by
    rw [Finset.mem_filter, Finset.mem_Icc]
    exact ⟨fun h => h.1.1, fun h => ⟨⟨h, behind⟩, fresh⟩⟩
  rw [hset]
  split
  next hinside => exact Finset.card_erase_add_one (hmem.mpr hinside)
  next houtside => rw [Finset.erase_eq_of_notMem fun h => houtside (hmem.mp h), Nat.add_zero]

theorem distinct_record : distinct (history.record p) =
    distinct history + if p ∈ history.seen then 0 else 1 := by
  have hset : (history.record p).seen.toFinset = insert p history.seen.toFinset :=
    List.toFinset_cons
  rw [distinct, hset]
  split
  next hseen =>
    rw [Finset.insert_eq_of_mem (List.mem_toFinset.mpr hseen)]
    rfl
  next hfresh => exact Finset.card_insert_of_notMem fun h => hfresh (List.mem_toFinset.mp h)

end Lost

/-! ## One verdict -/

/-- The three ways a position can be judged. -/
inductive Judgement (history : History) (p : Int) : SequenceStatus × Int → Prop where
  | ahead (status : SequenceStatus) (forward : status = .kInOrder ∨ status = .kGap)
    (above : history.high < p) : Judgement history p (status, p - history.high - 1)
  | again (behind : p ≤ history.high) (seen : p ∈ history.seen) :
    Judgement history p (.kDuplicate, 0)
  | late (behind : p ≤ history.high) (fresh : history.high - p < 64 → p ∉ history.seen) :
    Judgement history p (.kReordered, 0)

/-- A position is judged by where it stands to the highest one. -/
theorem judgement_classify (history : History) (p : Int) :
    Judgement history p (classify history p) := by
  unfold classify
  split
  next hnext =>
    have hskips : p - history.high - 1 = 0 := by omega
    rw [← hskips]
    exact .ahead _ (.inl rfl) (by omega)
  next hnext =>
    split
    next habove => exact .ahead _ (.inr rfl) (by omega)
    next hbelow =>
      split
      next hseen => exact .again (by omega) hseen.2
      next hlate => exact .late (by omega) fun hinside hseen => hlate ⟨hinside, hseen⟩

/-- How many verdicts have a status. -/
def tally (judged : List (SequenceStatus × Int)) (status : SequenceStatus) : Nat :=
  judged.countP fun verdict => verdict.1 = status

theorem tally_concat (judged : List (SequenceStatus × Int)) (verdict : SequenceStatus × Int)
    (status : SequenceStatus) :
    tally (judged ++ [verdict]) status =
      tally judged status + if verdict.1 = status then 1 else 0 :=
  countP_status_concat judged verdict status

theorem sum_concat (judged : List (SequenceStatus × Int)) (verdict : SequenceStatus × Int) :
    ((judged ++ [verdict]).map Prod.snd).sum = (judged.map Prod.snd).sum + verdict.2 := by
  rw [List.map_append, List.sum_append, List.map_singleton, List.sum_singleton]

/-! ## What a run of verdicts says -/

/-- The verdicts of a run bound what was lost in its history. -/
structure Estimates (judged : List (SequenceStatus × Int)) (history : History) (first : Int) :
    Prop where
  inside : first ≤ history.high
  whole : history.high - first =
    tally judged .kInOrder + tally judged .kGap + (judged.map Prod.snd).sum
  atLeast : (judged.map Prod.snd).sum - tally judged .kReordered ≤ lost history first
  atMost : lost history first ≤ (judged.map Prod.snd).sum

/-- The verdicts of a run say exactly what was lost and what came twice. -/
structure Exact (judged : List (SequenceStatus × Int)) (history : History) (first : Int) :
    Prop where
  lost_eq : (lost history first : Int) = (judged.map Prod.snd).sum - tally judged .kReordered
  distinct_eq : tally judged .kDuplicate + distinct history = judged.length

section Step

variable {judged : List (SequenceStatus × Int)} {history : History} {first p : Int}

/-- The first packet of a stream loses nothing. -/
theorem estimates_start (first : Int) : Estimates [(.kFirst, 0)] (History.start first) first := by
  have hnone : lost (History.start first) first = 0 := by
    refine Finset.card_eq_zero.mpr (Finset.filter_eq_empty_iff.mpr fun q hq hunseen => hunseen ?_)
    have hbounds := Finset.mem_Icc.mp hq
    exact List.mem_singleton.mpr (le_antisymm hbounds.2 hbounds.1)
  refine ⟨le_refl first, Int.sub_self first, ?_, ?_⟩
  · rw [hnone]
    exact le_refl _
  · rw [hnone]
    exact le_refl _

/-- The first packet of a stream is one of one. -/
theorem exact_start (first : Int) : Exact [(.kFirst, 0)] (History.start first) first := by
  have hestimates := estimates_start first
  refine ⟨?_, rfl⟩
  exact le_antisymm hestimates.atMost hestimates.atLeast

/-- **One verdict keeps the bounds.** -/
theorem Estimates.step (h : Estimates judged history first) :
    Estimates (judged ++ [classify history p]) (history.record p) first := by
  obtain ⟨inside, whole, atLeast, atMost⟩ := h
  have hinside : first ≤ (history.record p).high := inside.trans (le_max_left _ _)
  generalize hverdict : classify history p = verdict
  have hjudged := judgement_classify history p
  rw [hverdict] at hjudged
  cases hjudged with
  | ahead status forward above =>
    have hlost := lost_record_ahead inside above
    have hhigh := History.high_record_of_ge (le_of_lt above)
    refine ⟨hinside, ?_, ?_, ?_⟩
    · rw [tally_concat, tally_concat, sum_concat, hhigh]
      rcases forward with rfl | rfl
      · simp only [↓reduceIte, reduceCtorEq]
        omega
      · simp only [↓reduceIte, reduceCtorEq]
        omega
    · rw [tally_concat, sum_concat, hlost]
      rcases forward with rfl | rfl
      · simp only [reduceCtorEq, ↓reduceIte]
        omega
      · simp only [reduceCtorEq, ↓reduceIte]
        omega
    · rw [sum_concat, hlost]
      omega
  | again behind seen =>
    rw [← History.high_record_of_le behind] at whole
    rw [← lost_record_seen seen] at atLeast atMost
    refine ⟨hinside, ?_, ?_, ?_⟩
    · simpa only [tally_concat, sum_concat, reduceCtorEq, ↓reduceIte, Nat.add_zero, add_zero] using
        whole
    · simpa only [tally_concat, sum_concat, reduceCtorEq, ↓reduceIte, Nat.add_zero, add_zero] using
        atLeast
    · rwa [sum_concat, add_zero]
  | late behind fresh =>
    have hlost : lost (history.record p) first ≤ lost history first ∧
        lost history first ≤ lost (history.record p) first + 1 := by
      by_cases hseen : p ∈ history.seen
      · rw [lost_record_seen hseen]
        exact ⟨Nat.le_refl _, Nat.le_succ _⟩
      · have hfills : lost (history.record p) first + (if first ≤ p then 1 else 0) =
            lost history first := lost_record_behind behind hseen
        split at hfills <;> omega
    rw [← History.high_record_of_le behind] at whole
    refine ⟨hinside, ?_, ?_, ?_⟩
    · simpa only [tally_concat, sum_concat, reduceCtorEq, ↓reduceIte, Nat.add_zero, add_zero] using
        whole
    · rw [tally_concat, sum_concat]
      simp only [↓reduceIte]
      omega
    · rw [sum_concat]
      omega

/-- **And keeps exactness**, where the position is neither before the first nor behind the window.
-/
theorem Exact.step (h : Exact judged history first) (inside : first ≤ history.high)
    (low : first ≤ p) (near : history.high - 63 ≤ p) :
    Exact (judged ++ [classify history p]) (history.record p) first := by
  obtain ⟨lost_eq, distinct_eq⟩ := h
  generalize hverdict : classify history p = verdict
  have hjudged := judgement_classify history p
  rw [hverdict] at hjudged
  cases hjudged with
  | ahead status forward above =>
    have hfresh : p ∉ history.seen := fun hseen =>
      absurd (history.bounded p hseen) (not_le.mpr above)
    constructor
    · rw [lost_record_ahead inside above, tally_concat, sum_concat]
      rcases forward with rfl | rfl
      · simp only [reduceCtorEq, ↓reduceIte]
        omega
      · simp only [reduceCtorEq, ↓reduceIte]
        omega
    · rw [tally_concat, distinct_record, if_neg hfresh, List.length_append, List.length_singleton,
        ← distinct_eq]
      rcases forward with rfl | rfl
      · simp only [reduceCtorEq, ↓reduceIte]
        omega
      · simp only [reduceCtorEq, ↓reduceIte]
        omega
  | again behind seen =>
    constructor
    · rw [lost_record_seen seen, tally_concat, sum_concat]
      simpa only [reduceCtorEq, ↓reduceIte, Nat.add_zero, add_zero] using lost_eq
    · rw [tally_concat, distinct_record, if_pos seen, List.length_append, List.length_singleton,
        ← distinct_eq]
      simp only [↓reduceIte]
      omega
  | late behind fresh =>
    have hfresh := fresh (by omega)
    have hfills : lost (history.record p) first + (if first ≤ p then 1 else 0) =
        lost history first := lost_record_behind behind hfresh
    rw [if_pos low] at hfills
    constructor
    · rw [tally_concat, sum_concat]
      simp only [↓reduceIte]
      omega
    · rw [tally_concat, distinct_record, if_neg hfresh, List.length_append, List.length_singleton,
        ← distinct_eq]
      simp only [reduceCtorEq, ↓reduceIte]
      omega

end Step

/-! ## Whole runs -/

/-- Every position is neither before the first nor more than 63 behind the mark of its moment. -/
def MildlyReordered (sequenceNumbers : List (BitVec 64)) (first : Int) : Prop :=
  ∀ before number after history, sequenceNumbers = before ++ number :: after →
    sequenceHistory before = some history →
      first ≤ Serial.position history.high number ∧
        history.high - 63 ≤ Serial.position history.high number

/-- **A run of one source**, by its sequence numbers. -/
theorem estimates_verdicts (first : BitVec 64) (rest : List (BitVec 64)) :
    ∃ history, sequenceHistory (first :: rest) = some history ∧
      Estimates (verdicts (first :: rest)) history first.toNat ∧
      (MildlyReordered (first :: rest) first.toNat →
        Exact (verdicts (first :: rest)) history first.toNat) := by
  induction rest using List.reverseRecOn with
  | nil => exact ⟨_, rfl, estimates_start _, fun _ => exact_start _⟩
  | append_singleton rest number ih =>
    obtain ⟨history, hhistory, hestimates, hexact⟩ := ih
    have hnext := sequenceHistory_concat (first :: rest) number
    have hverdicts := verdicts_concat (first :: rest) number
    rw [hhistory] at hnext hverdicts
    refine ⟨_, hnext, ?_, fun mild => ?_⟩
    · rw [← List.cons_append, hverdicts]
      exact hestimates.step
    · have hearlier : MildlyReordered (first :: rest) first.toNat :=
        fun before number' after history heq => mild before number' (after ++ [number]) history
          (by rw [← List.cons_append, heq, List.append_assoc, List.cons_append])
      obtain ⟨hlow, hnear⟩ := mild (first :: rest) number [] history rfl hhistory
      rw [← List.cons_append, hverdicts]
      exact (hexact hearlier).step hestimates.inside hlow hnear

/-- What the counters of a run say about the positions that it received. The tracker counts in
64-bit words, so a counter is its count as long as that fits. -/
structure LossEstimate (tracker : SensorStreamTracker) (packets : List ReceivedPacket)
    (history : History) (first : Int) : Prop where
  counters : ∀ status, (tracker.observeAll packets).metrics.statusCounter status =
    BitVec.ofNat 64 ((tracker.observeEach packets).countP fun observation =>
      observation.status = status)
  counts : packets.length < 2 ^ 64 → ∀ status,
    ((tracker.observeAll packets).metrics.statusCounter status).toNat =
      (tracker.observeEach packets).countP fun observation => observation.status = status
  whole : history.high - first =
    ((tracker.observeEach packets).countP fun observation => observation.status = .kInOrder) +
      ((tracker.observeEach packets).countP fun observation => observation.status = .kGap) +
      (tracker.observeAll packets).metrics.missingSamplesInferred.toNat
  atLeast : (tracker.observeAll packets).metrics.missingSamplesInferred.toNat -
      ((tracker.observeEach packets).countP fun observation =>
        observation.status = .kReordered : Int) ≤ lost history first
  atMost : lost history first ≤ (tracker.observeAll packets).metrics.missingSamplesInferred.toNat
  exactly : MildlyReordered (packets.map fun packet => packet.packet.header.sequenceNumber) first →
    (lost history first : Int) =
        (tracker.observeAll packets).metrics.missingSamplesInferred.toNat -
          ((tracker.observeEach packets).countP fun observation =>
            observation.status = .kReordered : Int) ∧
      ((tracker.observeEach packets).countP fun observation =>
        observation.status = .kDuplicate : Int) = packets.length - distinct history

/-- **Loss estimation from the counters is sound, and exact for mildly reordered traffic.** The run
is of one source through a fresh tracker, and what it inferred as missing fits the counter. -/
theorem loss_estimate (config : SensorStreamTrackerConfig) (tracker : SensorStreamTracker)
    (fresh : make config = .ok tracker) (source : SensorSource) (first : ReceivedPacket)
    (rest : List ReceivedPacket)
    (alone : ∀ packet ∈ first :: rest, identifySensorSource packet = source)
    (unsaturated : ((tracker.observeEach (first :: rest)).map fun observation =>
      observation.missingSamples.toNat).sum < 2 ^ 64) :
    ∃ history, sequenceHistory ((first :: rest).map fun packet =>
        packet.packet.header.sequenceNumber) = some history ∧
      LossEstimate tracker (first :: rest) history
        first.packet.header.sequenceNumber.toNat := by
  unfold make at fresh
  split at fresh
  · cases fresh
  next hpositive =>
    obtain rfl := Except.ok.inj fresh
    have hmatches := observeEach_matches (Nat.pos_of_ne_zero hpositive) alone
    have hcounts := observeAll_counts (Nat.pos_of_ne_zero hpositive) alone
    obtain ⟨history, hhistory, hestimates, hexact⟩ := estimates_verdicts
      first.packet.header.sequenceNumber (rest.map fun packet => packet.packet.header.sequenceNumber)
    refine ⟨history, hhistory, ?_⟩
    have htally (status : SequenceStatus) :
        tally (verdicts ((first :: rest).map fun packet => packet.packet.header.sequenceNumber))
            status =
          (observeEach { config } (first :: rest)).countP fun observation =>
            observation.status = status :=
      (countP_of_matches hmatches status).symm
    have hmissing : ((verdicts ((first :: rest).map fun packet =>
        packet.packet.header.sequenceNumber)).map Prod.snd).sum =
        (observeAll { config } (first :: rest)).metrics.missingSamplesInferred.toNat := by
      have hsum := sum_of_matches hmatches
      have hcounter := hcounts.missing
      omega
    have hcounters (status : SequenceStatus) :
        (observeAll { config } (first :: rest)).metrics.statusCounter status = _ :=
      (hcounts.counted status).trans (congrArg _ (htally status))
    rw [List.map_cons] at htally hmissing
    obtain ⟨_, whole, atLeast, atMost⟩ := hestimates
    rw [htally, htally, hmissing] at whole
    rw [htally, hmissing] at atLeast
    rw [hmissing] at atMost
    exact {
      counters := hcounters
      counts := fun short status => by
        have hlength := hmatches.length_eq
        rw [length_verdicts, List.length_map] at hlength
        rw [hcounters, BitVec.toNat_ofNat]
        exact Nat.mod_eq_of_lt (Nat.lt_of_le_of_lt (List.countP_le_length.trans_eq hlength) short)
      whole
      atLeast
      atMost := Int.ofNat_le.mp atMost
      exactly := fun mild => by
        obtain ⟨hlost, hdistinct⟩ := hexact mild
        rw [htally, hmissing] at hlost
        rw [htally, length_verdicts, List.length_cons, List.length_map] at hdistinct
        rw [List.length_cons]
        exact ⟨hlost, by omega⟩ }

/-- A gap, of which one position is filled later, twice. -/
theorem loss_estimate_lateFill :
    ∃ history, sequenceHistory [10, 13, 11, 11] = some history ∧
      LossEstimate { config := {} } ([10, 13, 11, 11].map numbered) history 10 :=
  loss_estimate {} { config := {} } rfl (identifySensorSource (numbered 0)) (numbered 10)
    ([13, 11, 11].map numbered) (by decide) (by decide +kernel)

end Driveflow.Runtime
