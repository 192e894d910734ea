import Driveflow.Laws.Protocol.PacketIntegrity
import Driveflow.Laws.Simulator.Summary

/-!
# An interrupted run

What a datagram is, apart from its timestamp, is its `DatagramLabel`, and the labels of a packet
depend on its number and the fault configuration alone. So the runs of one configuration can be
compared: an interrupted run has sent the first so many numbers of the plan of an uninterrupted one,
each with all its copies.
-/

namespace Driveflow.Simulator

open Library Net Protocol Session

/-! ## Labels -/

structure DatagramLabel where
  sequenceNumber : BitVec 64
  duplicateCopy : Bool
  corrupted : Bool
  deriving DecidableEq, Repr

/-- The sequence number is read from the bytes. -/
def SentDatagram.label (datagram : SentDatagram) : DatagramLabel where
  sequenceNumber := Wire.fieldAt 64 datagram.packet.bytes kSequenceNumberOffset
  duplicateCopy := datagram.duplicateCopy
  corrupted := datagram.packet.corrupted

/-- The labels of the `k`-th packet. -/
def labelsAt (faults : FaultInjectionConfig) (k : Nat) : List DatagramLabel :=
  let corrupted := matchesInterval faults.corruptEvery (number k)
  { sequenceNumber := number k, duplicateCopy := false, corrupted } ::
    if matchesInterval faults.duplicateEvery (number k) then
      [{ sequenceNumber := number k, duplicateCopy := true, corrupted }]
    else []

/-- Flipping the last byte leaves the header alone. -/
theorem getElem?_flipLastByte {bytes : Bytes} {k : Nat} (h : k + 1 < bytes.length) :
    (flipLastByte bytes)[k]? = bytes[k]? := by
  have hne : ¬ bytes.length - 1 = k := by omega
  rw [flipLastByte, List.getElem?_modify]
  simp only [if_neg hne, Option.map_eq_map, Option.map_id']

theorem fieldAt_sampleBytes (config : SimulatorConfig) (sequenceNumber timestampNs : BitVec 64) :
    Wire.readBigEndian 64 (sampleBytes config sequenceNumber timestampNs) kSequenceNumberOffset =
      some sequenceNumber :=
  (read_layout _ _).2.2.2.1

theorem length_sampleBytes_ge (config : SimulatorConfig) (sequenceNumber timestampNs : BitVec 64) :
    32 ≤ (sampleBytes config sequenceNumber timestampNs).length := by
  rw [sampleBytes, length_layout]
  exact Nat.le_add_right _ _

/-- Corrupted or not, a packet carries its sequence number. -/
theorem sequenceNumber_packetAt (config : SimulatorConfig) (timestamps : Nat → BitVec 64) (k : Nat) :
    Wire.fieldAt 64 (packetAt config timestamps k).bytes kSequenceNumberOffset = number k := by
  have hsize := length_sampleBytes_ge config (number k) (timestamps (k - 1))
  have hinside : kSequenceNumberOffset + 64 / 8 ≤ (packetAt config timestamps k).bytes.length := by
    rw [length_packetAt, kSequenceNumberOffset]
    omega
  refine Option.some.inj ((Wire.readBigEndian_eq hinside).symm.trans
    (Eq.trans ?_ (fieldAt_sampleBytes config (number k) (timestamps (k - 1)))))
  refine readBigEndian_congr hinside (by rw [kSequenceNumberOffset]; omega) fun j _ hj => ?_
  unfold packetAt FaultInjector.pendingPacket
  dsimp only
  split
  · exact getElem?_flipLastByte (by rw [kSequenceNumberOffset] at hj; omega)
  · rfl

theorem map_label_copies (config : SimulatorConfig) (timestamps : Nat → BitVec 64) (k : Nat) :
    (copies (packetAt config timestamps k)).map SentDatagram.label =
      labelsAt config.faults k := by
  have hlabel (duplicateCopy : Bool) :
      SentDatagram.label { packet := packetAt config timestamps k, duplicateCopy } =
        { sequenceNumber := number k, duplicateCopy,
          corrupted := matchesInterval config.faults.corruptEvery (number k) } := by
    rw [SentDatagram.label, sequenceNumber_packetAt]
    rfl
  have hduplicate : (packetAt config timestamps k).duplicate =
      matchesInterval config.faults.duplicateEvery (number k) := rfl
  rw [copies, labelsAt, List.map_cons, hlabel, hduplicate]
  refine congrArg _ ?_
  split
  · rw [List.map_singleton, hlabel]
  · rfl

/-- **The labels of a run do not depend on its clock.** -/
theorem map_label_datagramsOf (config : SimulatorConfig) (timestamps : Nat → BitVec 64)
    (numbers : List Nat) :
    (datagramsOf (packetAt config timestamps) numbers).map SentDatagram.label =
      numbers.flatMap (labelsAt config.faults) := by
  rw [datagramsOf, List.map_flatMap]
  exact congrArg (numbers.flatMap ·) (funext (map_label_copies config timestamps))

/-- The first label of a packet is of a first copy. -/
theorem head_labels {faults : FaultInjectionConfig} {numbers : List Nat} {next : DatagramLabel}
    (h : (numbers.flatMap (labelsAt faults)).head? = some next) : next.duplicateCopy = false := by
  cases numbers with
  | nil => cases h
  | cons k numbers =>
    obtain rfl := Option.some.inj h
    rfl

/-! ## The plan goes on -/

section Plan

variable {faults : FaultInjectionConfig} {m later : Nat} {numbers : List Nat}

/-- What was emitted stays the beginning of what is emitted later. -/
theorem emitted_isPrefix (h : m ≤ later) :
    (plan faults m).emitted <+: (plan faults later).emitted := by
  induction later, h using Nat.le_induction with
  | base => exact List.prefix_rfl
  | succ later _ ih =>
    obtain ⟨released, completed, step⟩ := plan_step faults later
    rw [step.emitted]
    exact ih.trans (List.prefix_append _ _)

/-- A later swap is completed by a later number. -/
theorem swapsSent_later (bounded : ∀ k ∈ numbers, k ≤ m) (h : m ≤ later) :
    swapsSent faults later numbers = swapsSent faults m numbers := by
  induction later, h using Nat.le_induction with
  | base => rfl
  | succ later hle ih =>
    obtain ⟨released, completed, step⟩ := plan_step faults later
    have hnone : completed.countP (fun swap => swap.1 ∈ numbers ∧ swap.2 ∈ numbers) = 0 := by
      refine List.countP_eq_zero.mpr fun swap hswap hboth => ?_
      have hnumber := bounded _ (of_decide_eq_true hboth).2
      cases step with
      | dropped | sent | held => exact List.not_mem_nil hswap
      | swapped =>
        rw [List.mem_singleton.mp hswap] at hnumber
        exact Nat.not_succ_le_self later (Nat.le_trans hnumber hle)
    rw [swapsSent, step.swaps, List.countP_append, hnone, Nat.add_zero]
    exact ih

end Plan

/-! ## The theorem -/

/-- The summary of a session describes what it has sent: `m` packets were generated, and those of
`numbers` were sent, with all their copies. -/
structure Describes (config : SimulatorConfig) (timestamps : Nat → BitVec 64) (m : Nat)
    (numbers : List Nat) (session : Session) : Prop where
  generated : session.summary.packetsGenerated = number m
  bounded : ∀ k ∈ numbers, 1 ≤ k ∧ k ≤ m
  datagrams : session.sent = datagramsOf (packetAt config timestamps) numbers
  sent : session.summary.packetsSent = BitVec.ofNat 64 session.sent.length
  duplicates : session.summary.duplicatePacketsSent =
    BitVec.ofNat 64 (session.sent.countP fun datagram => datagram.duplicateCopy)
  corrupted : session.summary.corruptedPacketsSent =
    BitVec.ofNat 64 (session.sent.countP fun datagram => datagram.packet.corrupted)
  /-- The swaps, at whatever later point they are looked at, of which both packets were sent. -/
  reorder : ∀ later, m ≤ later →
    session.summary.reorderEvents = BitVec.ofNat 64 (swapsSent config.faults later numbers)
  dropped : session.summary.packetsDropped = BitVec.ofNat 64
    ((List.range' 1 m).countP fun s => matchesInterval config.faults.dropEvery (number s))

/-- What a session has sent is a prefix of what the uninterrupted run sends, from some point of it
on, and the prefix does not end between two copies of a packet. -/
def IsPrefixOf (quiet : Environment) (config : SimulatorConfig) (session : Session) : Prop :=
  ∃ enough, ∀ passes, enough ≤ passes →
    ∃ whole rest, runSimulator quiet config (some never) passes = .ok whole ∧
      whole.session.sent.map SentDatagram.label = session.sent.map SentDatagram.label ++ rest ∧
      ∀ next, rest.head? = some next → next.duplicateCopy = false

section Returned

variable {environment quiet : Environment} {config : SimulatorConfig} {stop : StopPredicate}
  {m : Nat} {numbers : List Nat} {session : Session}

/-- A session that reached a number has sent what the plan releases up to it. -/
theorem Reached.describes
    (reached : Reached config (packetAt config environment.timestamps) m numbers session)
    (subset : ∀ k ∈ numbers, k ∈ (plan config.faults m).order)
    (reorder : session.summary.reorderEvents =
      BitVec.ofNat 64 (swapsSent config.faults m numbers)) :
    Describes config environment.timestamps m numbers session where
  generated := reached.generated
  bounded k hk := (mem_order_plan.mp (subset k hk)).1
  datagrams := reached.sent
  sent := reached.counted.sent
  duplicates := reached.counted.duplicates
  corrupted := reached.counted.corrupted
  reorder later hle := by
    rw [reorder, swapsSent_later (fun k hk => (mem_order_plan.mp (subset k hk)).1.2) hle]
  dropped := by
    rw [reached.dropped, droppedNumbers, ← List.countP_eq_length_filter]
    rfl

/-- The numbers of a session against those of the uninterrupted run. -/
theorem isPrefixOf_of_numbers {timestamps : Nat → BitVec 64}
    (sent : session.sent = datagramsOf (packetAt config timestamps) numbers)
    (whole : ∃ enough, ∀ passes, enough ≤ passes → ∃ outcome planned,
      runSimulator quiet config (some never) passes = .ok outcome ∧ numbers <+: planned ∧
        outcome.session.sent = datagramsOf (packetAt config quiet.timestamps) planned) :
    IsPrefixOf quiet config session := by
  obtain ⟨enough, hwhole⟩ := whole
  refine ⟨enough, fun passes hpasses => ?_⟩
  obtain ⟨outcome, _, hrun, ⟨rest, rfl⟩, hsent⟩ := hwhole passes hpasses
  refine ⟨outcome, rest.flatMap (labelsAt config.faults), hrun, ?_, fun next => head_labels⟩
  rw [hsent, sent, map_label_datagramsOf, map_label_datagramsOf, List.flatMap_append]

/-- **What an interrupted run has sent** is a prefix of the uninterrupted one. -/
theorem Arrived.isPrefixOf {passes : Nat} (accepted : Accepted quiet.calls config)
    (opens : quiet.opens = true) (delivers : Delivers quiet config)
    (arrived : Arrived config (packetAt config environment.timestamps) stop passes
      (.returned session)) :
    (∃ m numbers, Describes config environment.timestamps m numbers session) ∧
      IsPrefixOf quiet config session := by
  have hquiet (passes : Nat) := runSimulator_ok accepted opens delivers steady_never passes
  cases arrived with
  | @complete n _ complete =>
    refine ⟨⟨n, _, complete.reached.describes (fun _ hk => hk) ?_⟩,
      isPrefixOf_of_numbers complete.reached.sent ⟨n, fun passes hpasses => ?_⟩⟩
    · have hsubset : (plan config.faults n).emitted ⊆ (plan config.faults n).order :=
        List.subset_append_left _ _
      rw [swapsSent_of_subset hsubset]
      exact complete.reorder
    · obtain ⟨outcome, hrun⟩ := hquiet passes
      refine ⟨outcome, (plan config.faults n).order, hrun, List.prefix_rfl, ?_⟩
      rcases runSimulator_never hrun with ⟨_, _, hbelow⟩ | ⟨_, n', hcomplete⟩
      · have hlt := hbelow _ complete.count
        rw [toNat_number complete.small] at hlt
        exact absurd hpasses (Nat.not_le.mpr hlt)
      · have hn := toNat_of_count hcomplete.count hcomplete.small complete.count
        rw [toNat_number complete.small] at hn
        rw [hn]
        exact hcomplete.reached.sent
  | @halted m numbers _ halted =>
    have hsubset (k : Nat) (hk : k ∈ numbers) : k ∈ (plan config.faults m).order :=
      List.mem_append_left _ (halted.isPrefix.subset hk)
    refine ⟨⟨m, numbers, halted.reached.describes hsubset halted.reorder⟩, ?_⟩
    cases hcount : config.packetCount with
    | none =>
      refine isPrefixOf_of_numbers halted.reached.sent ⟨m, fun passes hpasses => ?_⟩
      obtain ⟨outcome, hrun⟩ := hquiet passes
      rcases runSimulator_never hrun with ⟨hreached, _, _⟩ | ⟨_, n, hcomplete⟩
      · exact ⟨outcome, _, hrun, halted.isPrefix.trans (emitted_isPrefix hpasses), hreached.sent⟩
      · have hsome := hcomplete.count
        rw [hcount] at hsome
        cases hsome
    | some count =>
      refine isPrefixOf_of_numbers halted.reached.sent ⟨count.toNat, fun passes hpasses => ?_⟩
      obtain ⟨outcome, hrun⟩ := hquiet passes
      rcases runSimulator_never hrun with ⟨_, _, hbelow⟩ | ⟨_, n, hcomplete⟩
      · exact absurd hpasses (Nat.not_le.mpr (hbelow _ hcount))
      · have hn := toNat_of_count hcomplete.count hcomplete.small hcount
        have hle : m ≤ n := hn ▸ halted.within _ hcount
        exact ⟨outcome, _, hrun, (halted.isPrefix.trans (emitted_isPrefix hle)).trans
          (List.prefix_append _ _), hcomplete.reached.sent⟩

/-- **An interrupted run is a truthful prefix.** Whatever point the stop predicate turns true at,
the datagrams sent are a prefix of those of the uninterrupted run, no packet is split from its
second copy, and the summary describes just these. And the run returns, if it has a count or a stop
request is made. -/
theorem interrupted_prefix (environment quiet : Environment) (config : SimulatorConfig)
    (stop : StopPredicate) (steady : Steady stop)
    (accepted : validateRuntimeConfig quiet.calls config = .ok ()) (opens : quiet.opens = true)
    (delivers : Delivers quiet config) :
    (∀ passes session,
      runSimulator environment config (some stop) passes = .ok (.returned session) →
        (∃ m numbers, Describes config environment.timestamps m numbers session) ∧
          IsPrefixOf quiet config session) ∧
    (validateRuntimeConfig environment.calls config = .ok () → environment.opens = true →
      Delivers environment config →
      (config.packetCount ≠ none ∨ ∃ call, stop call = true) →
      ∃ passes session,
        runSimulator environment config (some stop) passes = .ok (.returned session)) := by
  constructor
  · intro passes session hrun
    obtain ⟨_, harrived⟩ := runSimulator_eq_ok steady hrun
    exact harrived.isPrefixOf (validateRuntimeConfig_iff.mp accepted) opens delivers
  · intro haccepted hopens hdelivers hends
    have haccepted := validateRuntimeConfig_iff.mp haccepted
    rcases hends with hfinite | ⟨call, hyes⟩
    · obtain ⟨count, hcount⟩ := Option.ne_none_iff_exists'.mp hfinite
      exact ⟨count.toNat, runSimulator_returns haccepted hopens hdelivers steady
        (.inl ⟨count, hcount, Nat.le_refl _⟩)⟩
    · exact ⟨call + 1, runSimulator_returns haccepted hopens hdelivers steady
        (.inr ⟨call, hyes, Nat.lt_succ_self _⟩)⟩

end Returned

/-- The same faults, in a run without a count. -/
def continuousPackets : SimulatorConfig := { eightPackets with packetCount := none }

theorem continuousPackets_accepted :
    validateRuntimeConfig loopback.calls continuousPackets = .ok () :=
  validateRuntimeConfig_iff.mpr
    { validateRuntimeConfig_iff.mp eightPackets_accepted with count := nofun }

/-- A continuous run with a packet held, stopped at the ninth question. -/
theorem interrupted_prefix_continuous :
    ∃ passes session,
      runSimulator loopback continuousPackets (some fun call => 8 ≤ call) passes =
        .ok (.returned session) ∧
      (∃ m numbers, Describes continuousPackets loopback.timestamps m numbers session) ∧
      IsPrefixOf loopback continuousPackets session := by
  have hdelivers : Delivers loopback continuousPackets :=
    delivers_of_sendto (by decide) fun _ _ => rfl
  obtain ⟨hinitial, hreturns⟩ := interrupted_prefix loopback loopback continuousPackets
    (fun call => 8 ≤ call)
    (fun _ _ hle h => decide_eq_true (Nat.le_trans (of_decide_eq_true h) hle))
    continuousPackets_accepted rfl hdelivers
  obtain ⟨passes, session, hrun⟩ := hreturns continuousPackets_accepted rfl hdelivers
    (.inr ⟨8, rfl⟩)
  exact ⟨passes, session, hrun, hinitial passes session hrun⟩

end Driveflow.Simulator
