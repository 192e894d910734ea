import Driveflow.Laws.Simulator.Emission

/-!
# What the summary says

The datagrams of a run are the copies of the packets of some numbers, so every counter of what was
sent is a count over those numbers. For the whole plan these are the numbers that are not dropped,
in another order, and the counts become divisibility counts over `1..n`.
-/

namespace Driveflow.Simulator

open Library Net Protocol Session

/-! ## Intervals -/

/-- The interval is set, and divides the number. -/
def Divides (interval : Option (BitVec 64)) (s : Nat) : Prop :=
  ∃ every, interval = some every ∧ every.toNat ∣ s

instance (interval : Option (BitVec 64)) (s : Nat) : Decidable (Divides interval s) :=
  match interval with
  | none => .isFalse fun ⟨_, h, _⟩ => nomatch h
  | some every => decidable_of_iff (every.toNat ∣ s)
    ⟨fun h => ⟨every, rfl, h⟩, fun ⟨_, h, hdvd⟩ => Option.some.inj h ▸ hdvd⟩

/-- `matches_interval` is divisibility. -/
theorem matchesInterval_iff_divides {interval : Option (BitVec 64)} {sequenceNumber : BitVec 64} :
    matchesInterval interval sequenceNumber = true ↔ Divides interval sequenceNumber.toNat := by
  cases interval with
  | none => exact ⟨nofun, nofun⟩
  | some every =>
    have hmod : sequenceNumber % every = 0 ↔ every.toNat ∣ sequenceNumber.toNat := by
      rw [← BitVec.toNat_inj, BitVec.toNat_umod, Nat.dvd_iff_mod_eq_zero]
      rfl
    exact decide_eq_true_iff.trans
      (hmod.trans ⟨fun h => ⟨every, rfl, h⟩, fun ⟨_, h, hdvd⟩ => Option.some.inj h ▸ hdvd⟩)

/-- The same of the number itself, as long as sequence numbers do not wrap. -/
theorem matchesInterval_iff {interval : Option (BitVec 64)} {s : Nat} (small : s < 2 ^ 64) :
    matchesInterval interval (number s) = true ↔ Divides interval s := by
  rw [matchesInterval_iff_divides, toNat_number small]

/-- The interval matches the sequence numbers it divides. -/
theorem decide_divides {interval : Option (BitVec 64)} {s : Nat} (small : s < 2 ^ 64) :
    decide (Divides interval s) = matchesInterval interval (number s) := by
  rw [Bool.eq_iff_iff, decide_eq_true_iff, matchesInterval_iff small]

/-- The numbers generated fit their sequence numbers. -/
theorem lt_of_mem_range' {s n : Nat} (small : n < 2 ^ 64) (hs : s ∈ List.range' 1 n) :
    s < 2 ^ 64 := by
  have hle := (List.mem_range'_1.mp hs).2
  omega

/-! ## Counting datagrams -/

section Datagrams

variable (packet : Nat → PendingPacket) (numbers : List Nat)

/-- Each packet is one datagram, and one more if it is duplicated. -/
theorem length_datagramsOf :
    (datagramsOf packet numbers).length =
      numbers.length + numbers.countP fun k => (packet k).duplicate := by
  induction numbers with
  | nil => rfl
  | cons k numbers ih =>
    rw [datagramsOf, List.flatMap_cons, List.length_append, List.length_cons, List.countP_cons]
    rw [datagramsOf] at ih
    rw [ih, copies]
    cases (packet k).duplicate with
    | true =>
      simp only [List.length_cons, List.length_nil, ↓reduceIte]
      omega
    | false =>
      simp only [List.length_cons, List.length_nil, Bool.false_eq_true, ↓reduceIte]
      omega

/-- There is one duplicate for each packet duplicated. -/
theorem countP_duplicateCopy :
    (datagramsOf packet numbers).countP (fun datagram => datagram.duplicateCopy) =
      numbers.countP fun k => (packet k).duplicate := by
  induction numbers with
  | nil => rfl
  | cons k numbers ih =>
    rw [datagramsOf, List.flatMap_cons, List.countP_append, List.countP_cons, Nat.add_comm]
    rw [datagramsOf] at ih
    rw [ih, copies]
    cases (packet k).duplicate with
    | true => rfl
    | false => rfl

/-- A corrupted packet is corrupted in both of its copies. -/
theorem countP_corrupted :
    (datagramsOf packet numbers).countP (fun datagram => datagram.packet.corrupted) =
      ((numbers.filter fun k => (packet k).corrupted).map fun k =>
        if (packet k).duplicate then 2 else 1).sum := by
  induction numbers with
  | nil => rfl
  | cons k numbers ih =>
    rw [datagramsOf, List.flatMap_cons, List.countP_append, List.filter_cons]
    rw [datagramsOf] at ih
    rw [ih, copies]
    cases hcorrupted : (packet k).corrupted with
    | true =>
      rw [if_pos rfl, List.map_cons, List.sum_cons]
      cases (packet k).duplicate with
      | true => simp only [↓reduceIte, List.countP_cons, List.countP_nil, hcorrupted]
      | false =>
        simp only [Bool.false_eq_true, ↓reduceIte, List.countP_cons, List.countP_nil, hcorrupted]
    | false =>
      rw [if_neg Bool.false_ne_true]
      cases (packet k).duplicate with
      | true =>
        simp only [↓reduceIte, List.countP_cons, List.countP_nil, hcorrupted, Bool.false_eq_true,
          Nat.zero_add]
      | false =>
        simp only [↓reduceIte, List.countP_cons, List.countP_nil, hcorrupted, Bool.false_eq_true,
          Nat.zero_add]

end Datagrams

/-! ## The packets that were held -/

/-- The injector after the packets `1..m`. -/
def injectorAfter (config : SimulatorConfig) (timestamps : Nat → BitVec 64) : Nat → FaultInjector
  | 0 => { config := config.faults }
  | m + 1 =>
    ((injectorAfter config timestamps m).process (number (m + 1))
      (sampleBytes config (number (m + 1)) (timestamps m))).2

/-- The injector of a run carries the plan. -/
theorem injectorAfter_eq (config : SimulatorConfig) (timestamps : Nat → BitVec 64) (m : Nat) :
    injectorAfter config timestamps m =
      injectorAt config.faults (packetAt config timestamps) m := by
  induction m with
  | zero => rfl
  | succ m ih =>
    obtain ⟨released, completed, step⟩ := plan_step config.faults m
    rw [injectorAfter, ih]
    exact congrArg Prod.snd (process_injectorAt step rfl)

/-- How many of the packets `1..n` found a packet held and left none: each released the one that was
held. -/
def releasedBySuccessor (config : SimulatorConfig) (timestamps : Nat → BitVec 64) (n : Nat) : Nat :=
  (List.range n).countP fun m =>
    (injectorAfter config timestamps m).heldPacket.isSome &&
      (injectorAfter config timestamps (m + 1)).heldPacket.isNone

/-- **The swaps of the plan are the releases by a successor.** -/
theorem releasedBySuccessor_eq (config : SimulatorConfig) (timestamps : Nat → BitVec 64) (n : Nat) :
    releasedBySuccessor config timestamps n = (plan config.faults n).swaps.length := by
  induction n with
  | zero => rfl
  | succ n ih =>
    have hheld (m : Nat) : (injectorAfter config timestamps m).heldPacket =
        (plan config.faults m).held.map (packetAt config timestamps) := by
      rw [injectorAfter_eq]
      rfl
    rw [releasedBySuccessor] at ih ⊢
    rw [List.range_succ, List.countP_append, ih, List.countP_singleton, hheld, hheld]
    obtain ⟨released, completed, step⟩ := plan_step config.faults n
    cases step with
    | dropped _ hplan =>
      rw [hplan]
      cases (plan config.faults n).held with
      | none => rfl
      | some waiting => rfl
    | sent _ hfree _ hplan => rw [hplan, hfree]; rfl
    | held _ hfree _ hplan => rw [hplan, hfree]; rfl
    | swapped _ hheld hplan => rw [hplan, hheld, List.length_append]; rfl

/-! ## The summary of a whole run -/

/-- The summary of a run of `n` packets, with what it sent. Words count modulo their size, so the
two that can exceed it are the residues of what they count. -/
structure SummaryCounts (config : SimulatorConfig) (timestamps : Nat → BitVec 64) (n : Nat)
    (session : Session) : Prop where
  generated : session.summary.packetsGenerated.toNat = n
  dropped : session.summary.packetsDropped.toNat =
    (List.range' 1 n).countP fun s => Divides config.faults.dropEvery s
  sent : session.summary.packetsSent = session.summary.packetsGenerated -
    session.summary.packetsDropped + session.summary.duplicatePacketsSent
  datagrams : session.sent.length = session.summary.packetsGenerated.toNat -
    session.summary.packetsDropped.toNat + session.summary.duplicatePacketsSent.toNat
  sentDatagrams : session.summary.packetsSent = BitVec.ofNat 64 session.sent.length
  duplicates : session.summary.duplicatePacketsSent.toNat =
    (List.range' 1 n).countP fun s =>
      ¬ Divides config.faults.dropEvery s ∧ Divides config.faults.duplicateEvery s
  delayed : session.summary.delayedPackets.toNat =
    (List.range' 1 n).countP fun s =>
      ¬ Divides config.faults.dropEvery s ∧
        Divides (config.faults.delay.map PeriodicDelay.every) s
  corrupted : session.summary.corruptedPacketsSent = BitVec.ofNat 64
    (((List.range' 1 n).filter fun s =>
      ¬ Divides config.faults.dropEvery s ∧ Divides config.faults.corruptEvery s).map fun s =>
        if Divides config.faults.duplicateEvery s then 2 else 1).sum
  corruptedDatagrams :
    session.sent.countP (fun datagram => datagram.packet.corrupted) =
      (((List.range' 1 n).filter fun s =>
        ¬ Divides config.faults.dropEvery s ∧ Divides config.faults.corruptEvery s).map fun s =>
          if Divides config.faults.duplicateEvery s then 2 else 1).sum
  reorder : session.summary.reorderEvents.toNat = releasedBySuccessor config timestamps n

section Whole

variable {calls : SocketCalls} {config : SimulatorConfig} {timestamps : Nat → BitVec 64} {n : Nat}

/-- A count over the whole plan is a count over the numbers that are not dropped. -/
theorem countP_order (small : n < 2 ^ 64) (rule : Nat → Bool) (selects : Nat → Prop)
    [DecidablePred selects] (h : ∀ s, s < 2 ^ 64 → rule s = decide (selects s)) :
    (plan config.faults n).order.countP rule =
      (List.range' 1 n).countP fun s =>
        ¬ Divides config.faults.dropEvery s ∧ selects s := by
  rw [(order_plan_perm n).countP_eq, keptNumbers, List.countP_filter]
  refine List.countP_congr fun s hs => ?_
  have hsmall := lt_of_mem_range' small hs
  rw [h s hsmall, dropped, ← decide_divides hsmall, ← decide_not, Bool.and_eq_true,
    decide_eq_true_iff, decide_eq_true_iff, decide_eq_true_iff, and_comm]

/-- A packet is delayed exactly if the delay interval divides its number. -/
theorem isDelayed_packetAt (accepted : Accepted calls config) {s : Nat} (small : s < 2 ^ 64) :
    isDelayed (packetAt config timestamps s) =
      decide (Divides (config.faults.delay.map PeriodicDelay.every) s) := by
  have hiff : FaultInjector.delayFor config.faults (number s) > 0 ↔
      matchesInterval (config.faults.delay.map PeriodicDelay.every) (number s) = true := by
    unfold FaultInjector.delayFor
    cases hdelay : config.faults.delay with
    | none => exact ⟨fun h => absurd h (Int.lt_irrefl 0), nofun⟩
    | some delay =>
      dsimp only [Option.map_some]
      have hpositive := (accepted.delay delay hdelay).2.1
      rw [matchesInterval, decide_eq_true_iff]
      split
      next hmatches => exact ⟨fun _ => hmatches, fun _ => hpositive⟩
      next hmatches => exact ⟨fun h => absurd h (Int.lt_irrefl 0), fun h => absurd h hmatches⟩
  rw [decide_divides small, Bool.eq_iff_iff, ← hiff]
  exact decide_eq_true_iff

/-- **The counters of a run that sent the whole plan.** -/
theorem Complete.summaryCounts {session : Session} (accepted : Accepted calls config)
    (complete : Complete config (packetAt config timestamps) n session) :
    SummaryCounts config timestamps n session := by
  have hsmall := complete.small
  have hreached := complete.reached
  have hkept : (droppedNumbers config.faults n).length + (keptNumbers config.faults n).length = n :=
    length_dropped_add_length_kept n
  have hgenerated : session.summary.packetsGenerated.toNat = n := by
    rw [hreached.generated, toNat_number hsmall]
  have hdroppedCount : (droppedNumbers config.faults n).length =
      (List.range' 1 n).countP fun s => Divides config.faults.dropEvery s := by
    rw [droppedNumbers, ← List.countP_eq_length_filter]
    refine List.countP_congr fun s hs => ?_
    rw [decide_divides (lt_of_mem_range' hsmall hs), dropped]
  have hdropped : session.summary.packetsDropped.toNat = (droppedNumbers config.faults n).length := by
    rw [hreached.dropped]
    exact Nat.mod_eq_of_lt (by omega)
  have hlength : session.sent.length = (keptNumbers config.faults n).length +
      (plan config.faults n).order.countP fun k => (packetAt config timestamps k).duplicate := by
    rw [hreached.sent, length_datagramsOf, (order_plan_perm n).length_eq]
  have horder : (plan config.faults n).order.length ≤ n := by
    rw [(order_plan_perm n).length_eq]
    omega
  have hcount (rule : Nat → Bool) :
      (BitVec.ofNat 64 ((plan config.faults n).order.countP rule)).toNat =
        (plan config.faults n).order.countP rule := by
    have := List.countP_le_length (p := rule) (l := (plan config.faults n).order)
    exact Nat.mod_eq_of_lt (by omega)
  have hduplicates : session.summary.duplicatePacketsSent.toNat =
      (plan config.faults n).order.countP fun k => (packetAt config timestamps k).duplicate := by
    rw [hreached.counted.duplicates, hreached.sent, countP_duplicateCopy, hcount]
  have hcorrupted : session.sent.countP (fun datagram => datagram.packet.corrupted) =
      (((List.range' 1 n).filter fun s =>
        ¬ Divides config.faults.dropEvery s ∧ Divides config.faults.corruptEvery s).map fun s =>
          if Divides config.faults.duplicateEvery s then 2 else 1).sum := by
    rw [hreached.sent, countP_corrupted]
    refine (((order_plan_perm n).filter _).map _).sum_eq.trans ?_
    have hselected : (List.range' 1 n).filter (fun s =>
        (packetAt config timestamps s).corrupted && !dropped config.faults s) =
        (List.range' 1 n).filter fun s =>
          ¬ Divides config.faults.dropEvery s ∧ Divides config.faults.corruptEvery s := by
      refine List.filter_congr fun s hs => ?_
      have hs' := lt_of_mem_range' hsmall hs
      rw [Bool.decide_and, decide_not, decide_divides hs', decide_divides hs', Bool.and_comm]
      rfl
    rw [keptNumbers, List.filter_filter, hselected]
    refine congrArg List.sum (List.map_congr_left fun s hs => ?_)
    refine if_congr (Iff.symm ?_) rfl rfl
    exact (matchesInterval_iff (lt_of_mem_range' hsmall (List.mem_filter.mp hs).1)).symm
  exact {
    generated := hgenerated
    dropped := hdropped.trans hdroppedCount
    sent := by
      rw [hreached.counted.sent, hlength, BitVec.ofNat_add, hreached.generated, hreached.dropped,
        hreached.counted.duplicates, hreached.sent, countP_duplicateCopy, number]
      refine congrArg (· + _) ?_
      calc BitVec.ofNat 64 (keptNumbers config.faults n).length
          = BitVec.ofNat 64 (keptNumbers config.faults n).length +
              BitVec.ofNat 64 (droppedNumbers config.faults n).length -
              BitVec.ofNat 64 (droppedNumbers config.faults n).length :=
            (BitVec.add_sub_cancel _ _).symm
        _ = BitVec.ofNat 64 n - BitVec.ofNat 64 (droppedNumbers config.faults n).length := by
            rw [← BitVec.ofNat_add, Nat.add_comm, hkept]
    datagrams := by
      rw [hlength, hgenerated, hdropped, hduplicates]
      omega
    sentDatagrams := hreached.counted.sent
    duplicates := by
      rw [hduplicates, countP_order hsmall _ (Divides config.faults.duplicateEvery)]
      exact fun s hs => (decide_divides hs).symm
    delayed := by
      rw [complete.delayed, hcount,
        countP_order hsmall _ (Divides (config.faults.delay.map PeriodicDelay.every))]
      exact fun s hs => isDelayed_packetAt accepted hs
    corrupted := by rw [hreached.counted.corrupted, hcorrupted]
    corruptedDatagrams := hcorrupted
    reorder := by
      have hswaps : (plan config.faults n).swaps.length ≤ n := by
        rw [← releasedBySuccessor_eq config timestamps, releasedBySuccessor]
        exact Nat.le_trans List.countP_le_length (Nat.le_of_eq List.length_range)
      rw [complete.reorder, releasedBySuccessor_eq]
      exact Nat.mod_eq_of_lt (by omega) }

end Whole

/-- A network that sends every datagram whole. -/
theorem delivers_of_sendto {environment : Environment} {config : SimulatorConfig}
    (address : isIpv4Address environment.calls config.destination.address = true)
    (sendto : ∀ bytes address, environment.calls.sendto bytes address = some bytes.length) :
    Delivers environment config := by
  intro bytes hfits
  obtain ⟨number, hnumber⟩ := Option.isSome_iff_exists.mp address
  rw [sendTo, if_neg (Nat.not_lt.mpr hfits), toSockaddr, hnumber]
  simp only [bind, Except.bind, sendto]
  exact if_neg (not_not.mpr rfl)

/-- **The summary counts exactly what was generated and sent.** An accepted configuration with a
count, that nothing interrupts and whose datagrams are all sent, returns within that many passes,
and each counter is the count the fault intervals say. -/
theorem summary_counts (environment : Environment) (config : SimulatorConfig) (count : BitVec 64)
    (passes : Nat) (accepted : validateRuntimeConfig environment.calls config = .ok ())
    (finite : config.packetCount = some count) (opens : environment.opens = true)
    (delivers : Delivers environment config) (enough : count.toNat ≤ passes) :
    ∃ session, runSimulator environment config (some never) passes = .ok (.returned session) ∧
      SummaryCounts config environment.timestamps count.toNat session := by
  have haccepted := validateRuntimeConfig_iff.mp accepted
  obtain ⟨session, hrun⟩ := runSimulator_returns haccepted opens delivers steady_never
    (.inl ⟨count, finite, enough⟩)
  refine ⟨session, hrun, ?_⟩
  rcases runSimulator_never hrun with ⟨_, hrunning, _⟩ | ⟨_, n, hcomplete⟩
  · cases hrunning
  · rw [toNat_of_count hcomplete.count hcomplete.small finite]
    exact hcomplete.summaryCounts haccepted

/-- A machine whose only address is its loopback, and whose network takes everything. -/
def loopback : Environment where
  calls :=
    { inetPton := fun text => if text = "127.0.0.1" then some 0x7f000001#32 else none
      inetNtop := fun _ => some "127.0.0.1"
      sendto := fun bytes _ => some bytes.length }

/-- Eight packets with several faults. -/
def eightPackets : SimulatorConfig where
  destination := { address := "127.0.0.1", port := 9100 }
  rateHz := some 1000
  packetCount := some 8
  faults :=
    { dropEvery := some 5, duplicateEvery := some 3, reorderEvery := some 2
      delay := some { every := 4, duration := 5 }, corruptEvery := some 6 }

/-- The configuration of the eight packets is accepted. -/
theorem eightPackets_accepted : validateRuntimeConfig loopback.calls eightPackets = .ok () :=
  validateRuntimeConfig_iff.mpr
    { address := by decide
      port := by decide
      rate := by decide +kernel
      count := by decide
      extraData := by decide
      cameraOnly := by decide
      drop := by decide
      duplicate := by decide
      reorder := by decide
      corrupt := by decide
      delay := fun delay h => by
        obtain rfl := Option.some.inj h
        decide }

/-- A run of eight packets with every fault injected. -/
theorem summary_counts_eightPackets :
    ∃ session, runSimulator loopback eightPackets (some never) 8 = .ok (.returned session) ∧
      SummaryCounts eightPackets loopback.timestamps 8 session :=
  summary_counts loopback eightPackets 8 8 eightPackets_accepted rfl rfl
    (delivers_of_sendto (by decide) fun _ _ => rfl) (by decide)

end Driveflow.Simulator
