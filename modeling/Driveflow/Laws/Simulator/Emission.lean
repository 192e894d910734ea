import Driveflow.Laws.Simulator.Plan
import Driveflow.Laws.Simulator.Sending

/-!
# What a run sends

A run goes through its loop once for each packet, and at the head of the loop it has sent what the
plan has released so far (`AtHead`). One pass keeps that or ends the run (`pass_eq_ok`), and so does
the loop (`loop_eq_ok`). So a run that returns has sent the whole plan (`Complete`), or it has heard
a stop request and has sent the first so many numbers of the plan (`Halted`).

No batch is cut inside a packet, and no swap is counted before both its packets are out, so the
counters are exact at each of the points where a run can be stopped.
-/

namespace Driveflow.Simulator

open Library Net Protocol Session

/-- The `k`-th packet, as the injector makes it. -/
def packetAt (config : SimulatorConfig) (timestamps : Nat → BitVec 64) (k : Nat) : PendingPacket :=
  FaultInjector.pendingPacket config.faults (number k)
    (sampleBytes config (number k) (timestamps (k - 1)))

/-- The datagrams of the packets of these numbers. -/
def datagramsOf (packet : Nat → PendingPacket) (numbers : List Nat) : List SentDatagram :=
  numbers.flatMap fun k => copies (packet k)

/-- The datagrams of two lists of numbers stand behind each other. -/
theorem datagramsOf_append (packet : Nat → PendingPacket) (numbers later : List Nat) :
    datagramsOf packet (numbers ++ later) = datagramsOf packet numbers ++ datagramsOf packet later :=
  List.flatMap_append

/-- A datagram is a copy of one of the packets. -/
theorem packet_of_mem_datagramsOf {packet : Nat → PendingPacket} {numbers : List Nat}
    {datagram : SentDatagram} (h : datagram ∈ datagramsOf packet numbers) :
    ∃ k ∈ numbers, datagram.packet = packet k := by
  obtain ⟨k, hk, hcopy⟩ := List.mem_flatMap.mp h
  refine ⟨k, hk, ?_⟩
  rw [copies, List.mem_cons] at hcopy
  rcases hcopy with rfl | hcopy
  · rfl
  · split at hcopy
    · rw [List.mem_singleton.mp hcopy]
    · exact absurd hcopy List.not_mem_nil

/-! ## Swaps of which both packets were sent -/

/-- The completed swaps of the plan of which both numbers are among these. -/
def swapsSent (faults : FaultInjectionConfig) (m : Nat) (numbers : List Nat) : Nat :=
  (plan faults m).swaps.countP fun swap => swap.1 ∈ numbers ∧ swap.2 ∈ numbers

section Swaps

variable {faults : FaultInjectionConfig} {m : Nat} {numbers : List Nat}

/-- Every swap counts as sent once all that was emitted is sent. -/
theorem swapsSent_of_subset (h : (plan faults m).emitted ⊆ numbers) :
    swapsSent faults m numbers = (plan faults m).swaps.length := by
  refine List.countP_eq_length.mpr fun swap hswap => decide_eq_true ?_
  obtain ⟨hheld, hfirst⟩ := mem_emitted_of_mem_swaps_plan hswap
  exact ⟨h hheld, h hfirst⟩

/-- A swap that is cut does not count. -/
theorem swapsSent_of_cut {released gone left : List Nat} {completed : List (Nat × Nat)}
    (step : Step faults m released completed) (split : released = gone ++ left) (cut : left ≠ []) :
    swapsSent faults (m + 1) ((plan faults m).emitted ++ gone) = (plan faults m).swaps.length := by
  have hold : (plan faults m).swaps.countP (fun swap =>
      swap.1 ∈ (plan faults m).emitted ++ gone ∧ swap.2 ∈ (plan faults m).emitted ++ gone) =
      (plan faults m).swaps.length :=
    swapsSent_of_subset (List.subset_append_left _ _)
  have hnew : completed.countP (fun swap =>
      swap.1 ∈ (plan faults m).emitted ++ gone ∧ swap.2 ∈ (plan faults m).emitted ++ gone) = 0 := by
    refine List.countP_eq_zero.mpr fun swap hswap hboth => ?_
    obtain ⟨hheld, _⟩ := of_decide_eq_true hboth
    -- the number that was held is the last of the batch, so it is among those left
    have hlast : swap.1 ∈ left := by
      have hreleased := step.eq_append_of_mem hswap
      have hgetLast : (gone ++ left).getLast? = some swap.1 := by
        rw [← split, hreleased, List.getLast?_append_of_ne_nil _ (List.cons_ne_nil _ _)]
        rfl
      rw [List.getLast?_append_of_ne_nil _ cut] at hgetLast
      exact List.mem_of_getLast? hgetLast
    have hnodup : (plan faults (m + 1)).emitted.Nodup := nodup_emitted_plan (m + 1)
    rw [step.emitted, split, ← List.append_assoc] at hnodup
    exact (List.nodup_append.mp hnodup).2.2 _ hheld _ hlast rfl
  rw [swapsSent, step.swaps, List.countP_append, hold, hnew, Nat.add_zero]

end Swaps

/-! ## Where a run can be -/

section Run

variable (config : SimulatorConfig) (packet : Nat → PendingPacket) (stop : StopPredicate)

/-- After `m` generated packets the packets of these numbers have been sent. -/
structure Reached (m : Nat) (numbers : List Nat) (session : Session) : Prop where
  generated : session.summary.packetsGenerated = number m
  dropped : session.summary.packetsDropped =
    BitVec.ofNat 64 (droppedNumbers config.faults m).length
  timestampsRead : session.timestampsRead = m
  sent : session.sent = datagramsOf packet numbers
  counted : session.Counted

/-- Between two passes, with no stop request heard. -/
structure AtHead (m : Nat) (simulation : Simulation) : Prop where
  injector : simulation.injector = injectorAt config.faults packet m
  reached : Reached config packet m (plan config.faults m).emitted simulation.session
  reorder : simulation.session.summary.reorderEvents =
    BitVec.ofNat 64 (plan config.faults m).swaps.length
  delayed : simulation.session.summary.delayedPackets =
    BitVec.ofNat 64 ((plan config.faults m).emitted.countP fun k => isDelayed (packet k))
  calls : m ≤ simulation.session.stopCalls
  quiet : simulation.session.Quiet stop

/-- The count, if there is one, is not reached. -/
def Below (m : Nat) : Prop := ∀ count, config.packetCount = some count → m < count.toNat

/-- A stop request was heard, with these numbers sent. -/
structure Halted (m : Nat) (numbers : List Nat) (session : Session) : Prop where
  within : ∀ count, config.packetCount = some count → m ≤ count.toNat
  isPrefix : numbers <+: (plan config.faults m).emitted
  reached : Reached config packet m numbers session
  reorder : session.summary.reorderEvents =
    BitVec.ofNat 64 (swapsSent config.faults m numbers)
  heard : session.Heard stop

/-- All `n` packets were generated, and the whole plan was sent. -/
structure Complete (n : Nat) (session : Session) : Prop where
  count : config.packetCount = some (number n)
  small : n < 2 ^ 64
  reached : Reached config packet n (plan config.faults n).order session
  reorder : session.summary.reorderEvents =
    BitVec.ofNat 64 (plan config.faults n).swaps.length
  delayed : session.summary.delayedPackets =
    BitVec.ofNat 64 ((plan config.faults n).order.countP fun k => isDelayed (packet k))

variable {config packet stop} {m : Nat} {numbers : List Nat} {session after : Session}

/-- Waiting sends nothing and books nothing. -/
theorem Reached.waits {delays : Nat} {stopped : Bool} (h : Reached config packet m numbers session)
    (wait : Waits stop delays session after stopped) : Reached config packet m numbers after where
  generated := (congrArg Prod.fst wait.books).trans h.generated
  dropped := (congrArg (fun books => books.2.1) wait.books).trans h.dropped
  timestampsRead := (congrArg (fun books => books.2.2.2) wait.books).trans h.timestampsRead
  sent := wait.sent.trans h.sent
  counted := wait.counted h.counted

/-- A batch of the packets of some numbers adds those that went out. -/
theorem Reached.sends {released : List Nat} {complete : Bool}
    (h : Reached config packet m numbers session)
    (sends : Sends stop (released.map packet) session after complete) :
    ∃ gone left, released = gone ++ left ∧ (left = [] ↔ complete = true) ∧
      Reached config packet m (numbers ++ gone) after := by
  obtain ⟨gonePackets, leftPackets, hsplit, hcomplete, hsent⟩ := sends.sent
  obtain ⟨gone, left, rfl, rfl, rfl⟩ := List.map_eq_append_iff.mp hsplit
  rw [List.map_eq_nil_iff] at hcomplete
  refine ⟨gone, left, rfl, hcomplete, ?_⟩
  exact {
    generated := (congrArg Prod.fst sends.books).trans h.generated
    dropped := (congrArg (fun books => books.2.1) sends.books).trans h.dropped
    timestampsRead := (congrArg (fun books => books.2.2.2) sends.books).trans h.timestampsRead
    sent := by
      rw [hsent, h.sent, datagramsOf_append, List.flatMap_map]
      rfl
    counted := sends.counted h.counted }

/-- Counting a swap changes nothing else. -/
theorem Reached.countSwaps (h : Reached config packet m numbers session) (events : BitVec 64) :
    Reached config packet m numbers { session with summary :=
      { session.summary with reorderEvents := session.summary.reorderEvents + events } } :=
  ⟨h.generated, h.dropped, h.timestampsRead, h.sent,
    ⟨h.counted.sent, h.counted.duplicates, h.counted.corrupted⟩⟩

/-- A stop request heard at the head of the loop, or in the rate wait. -/
theorem AtHead.halted {simulation : Simulation} {delays : Nat}
    (h : AtHead config packet stop m simulation)
    (within : ∀ count, config.packetCount = some count → m ≤ count.toNat)
    (wait : Waits stop delays simulation.session after true) :
    Halted config packet stop m (plan config.faults m).emitted after where
  within := within
  isPrefix := List.prefix_rfl
  reached := h.reached.waits wait
  reorder := by
    rw [swapsSent_of_subset (List.Subset.refl _)]
    exact (congrArg (fun books => books.2.2.1) wait.books).trans h.reorder
  heard := wait.heard rfl

/-- A wait that was not stopped. -/
theorem AtHead.waits {simulation : Simulation} (h : AtHead config packet stop m simulation)
    (wait : Waits stop 0 simulation.session after false) :
    AtHead config packet stop m { simulation with session := after } where
  injector := h.injector
  reached := h.reached.waits wait
  reorder := (congrArg (fun books => books.2.2.1) wait.books).trans h.reorder
  delayed := wait.delayed.trans ((BitVec.add_zero _).trans h.delayed)
  calls := Nat.le_trans h.calls wait.calls
  quiet := wait.quiet rfl h.quiet

/-! ## One batch -/

variable {environment : Environment}

/-- `send_batch` counts its swaps when all of it is out, and not before. -/
theorem sendBatch_eq_ok {batch : InjectionBatch} {complete : Bool}
    (h : session.sendBatch environment config stop batch = .ok (complete, after)) :
    (complete = false ∧ Sends stop batch.packets session after false) ∨
    ∃ sent, complete = true ∧ Sends stop batch.packets session sent true ∧
      after = { sent with summary :=
        { sent.summary with reorderEvents := sent.summary.reorderEvents + batch.reorderEvents } } := by
  obtain ⟨⟨whole, sent⟩, hsend, hrest⟩ := bind_eq_ok.mp h
  have hsends := sendPackets_eq_ok hsend
  cases whole with
  | true =>
    obtain ⟨rfl, rfl⟩ := Prod.mk.inj (Except.ok.inj hrest)
    exact .inr ⟨sent, rfl, hsends, rfl⟩
  | false =>
    obtain ⟨rfl, rfl⟩ := Prod.mk.inj (Except.ok.inj hrest)
    exact .inl ⟨rfl, hsends⟩

/-- A batch whose packets fit is sent or stopped, and throws nothing. -/
theorem sendBatch_ok (delivers : Delivers environment config) (stop : StopPredicate)
    (batch : InjectionBatch)
    (fits : ∀ packet ∈ batch.packets, packet.bytes.length ≤ kMaxUdpPayloadSize)
    (session : Session) :
    ∃ complete after, session.sendBatch environment config stop batch = .ok (complete, after) := by
  obtain ⟨complete, after, hsend⟩ := sendPackets_ok delivers stop fits session
  rw [sendBatch, hsend]
  cases complete with
  | true => exact ⟨true, _, rfl⟩
  | false => exact ⟨false, _, rfl⟩

/-! ## One pass -/

section Pass

open Simulation

/-- The session of a pass that has generated its packet and has yet to send. -/
def prepared (faults : FaultInjectionConfig) (m : Nat) (session : Session) : Session :=
  { session with
    timestampsRead := session.timestampsRead + 1
    summary := { session.summary with
      packetsGenerated := session.summary.packetsGenerated + 1
      packetsDropped := session.summary.packetsDropped + if dropped faults (m + 1) then 1 else 0 } }

/-- Generating books the packet and sends nothing yet. -/
theorem Reached.prepared (h : Reached config packet m numbers session) :
    Reached config packet (m + 1) numbers (prepared config.faults m session) where
  generated := by
    rw [number_succ, ← h.generated]
    rfl
  dropped := by
    change session.summary.packetsDropped + _ = _
    rw [h.dropped, droppedNumbers_succ, List.length_append, BitVec.ofNat_add]
    split <;> rfl
  timestampsRead := congrArg (· + 1) h.timestampsRead
  sent := h.sent
  counted := ⟨h.counted.sent, h.counted.duplicates, h.counted.corrupted⟩

/-- The rest of a pass, from its batch on. -/
def afterBatch (environment : Environment) (config : SimulatorConfig) (stop : StopPredicate)
    (injector : FaultInjector) (sent : Bool × Session) : Except Exception (Pass × Simulation) :=
  if !sent.1 then .ok (.left true, { injector, session := sent.2 })
  else if countReached config sent.2 then .ok (.left false, { injector, session := sent.2 })
  else
    let waited := sent.2.waitUntilOrStop environment stop
    .ok (if waited.1 then .left true else .again, { injector, session := waited.2 })

/-- Generating encodes the next sample at the next timestamp. -/
theorem generate_eq (accepted : Accepted environment.calls config) (session : Session) :
    session.generate config environment =
      .ok (sampleBytes config (session.summary.packetsGenerated + 1)
          (environment.timestamps session.timestampsRead),
        { session with
          timestampsRead := session.timestampsRead + 1
          summary := { session.summary with
            packetsGenerated := session.summary.packetsGenerated + 1 } }) := by
  unfold generate
  dsimp only
  rw [encodeSample_eq accepted]
  rfl

/-- **A pass sends the batch of its step**, and the injector carries the plan on. -/
theorem AtHead.pass_eq {simulation : Simulation} {released : List Nat}
    {completed : List (Nat × Nat)} (accepted : Accepted environment.calls config)
    (head : AtHead config (packetAt config environment.timestamps) stop m simulation)
    (step : Step config.faults m released completed) :
    simulation.pass environment config stop =
      (prepared config.faults m simulation.session).sendBatch environment config stop
        (batchOf config.faults (packetAt config environment.timestamps) m released completed) >>=
      afterBatch environment config stop
        (injectorAt config.faults (packetAt config environment.timestamps) (m + 1)) := by
  have hnumber : simulation.session.summary.packetsGenerated + 1 = number (m + 1) := by
    rw [head.reached.generated, number_succ]
  have hprocess : simulation.injector.process (simulation.session.summary.packetsGenerated + 1)
      (sampleBytes config (simulation.session.summary.packetsGenerated + 1)
        (environment.timestamps simulation.session.timestampsRead)) =
      (batchOf config.faults (packetAt config environment.timestamps) m released completed,
        injectorAt config.faults (packetAt config environment.timestamps) (m + 1)) := by
    rw [hnumber, head.reached.timestampsRead, head.injector]
    exact process_injectorAt step rfl
  have hpass : simulation.pass environment config stop =
      (fun processed : InjectionBatch × FaultInjector =>
        sendBatch environment config stop processed.1
          { simulation.session with
            timestampsRead := simulation.session.timestampsRead + 1
            summary := { simulation.session.summary with
              packetsGenerated := simulation.session.summary.packetsGenerated + 1
              packetsDropped := simulation.session.summary.packetsDropped +
                processed.1.packetsDropped } } >>=
          afterBatch environment config stop processed.2)
        (simulation.injector.process (simulation.session.summary.packetsGenerated + 1)
          (sampleBytes config (simulation.session.summary.packetsGenerated + 1)
            (environment.timestamps simulation.session.timestampsRead))) := by
    unfold Simulation.pass
    dsimp only
    rw [generate_eq accepted]
    rfl
  rw [hpass, hprocess]
  rfl

/-- How a pass from the head of the loop can end. -/
inductive Passed (config : SimulatorConfig) (packet : Nat → PendingPacket) (stop : StopPredicate)
    (m : Nat) : Pass → Simulation → Prop where
  | again {simulation} (head : AtHead config packet stop (m + 1) simulation)
      (below : Below config (m + 1)) : Passed config packet stop m .again simulation
  | finished {simulation} (head : AtHead config packet stop (m + 1) simulation)
      (count : config.packetCount = some (number (m + 1))) (small : m + 1 < 2 ^ 64) :
      Passed config packet stop m (.left false) simulation
  | halted {simulation numbers}
      (halted : Halted config packet stop (m + 1) numbers simulation.session) :
      Passed config packet stop m (.left true) simulation

/-- The count is reached when exactly so many packets were generated. -/
theorem countReached_iff :
    countReached config session = true ↔
      config.packetCount = some session.summary.packetsGenerated := by
  unfold countReached
  cases config.packetCount with
  | none => exact ⟨nofun, nofun⟩
  | some count => exact ⟨fun h => congrArg some (of_decide_eq_true h).symm,
      fun h => decide_eq_true (Option.some.inj h).symm⟩

/-- The rest of a pass whose batch is out. -/
theorem AtHead.afterBatch_eq_ok {injector : FaultInjector} {simulation : Simulation} {pass : Pass}
    (head : AtHead config packet stop (m + 1) { injector, session }) (below : Below config m)
    (h : afterBatch environment config stop injector (true, session) = .ok (pass, simulation)) :
    Passed config packet stop m pass simulation := by
  have hgenerated := head.reached.generated
  change (if countReached config session = true then _ else _) = _ at h
  split at h
  next hreached =>
    obtain ⟨rfl, rfl⟩ := Prod.mk.inj (Except.ok.inj h)
    have hcount := countReached_iff.mp hreached
    rw [hgenerated] at hcount
    have hlt := below _ hcount
    refine .finished head hcount (Nat.lt_of_le_of_ne (Nat.lt_trans hlt (BitVec.isLt _)) ?_)
    intro hwrap
    rw [hwrap] at hlt
    exact Nat.not_lt_zero _ hlt
  next hreached =>
    obtain ⟨rfl, rfl⟩ := Prod.mk.inj (Except.ok.inj h)
    have hwait := waits_waitUntilOrStop environment stop session
    cases hstopped : (session.waitUntilOrStop environment stop).1 with
    | true =>
      rw [hstopped] at hwait
      exact .halted (head.halted (fun count hcount => below count hcount) hwait)
    | false =>
      rw [hstopped] at hwait
      refine .again (head.waits hwait) fun count hcount => ?_
      refine Nat.lt_of_le_of_ne (below count hcount) fun heq => ?_
      refine hreached (countReached_iff.mpr ?_)
      rw [hcount, hgenerated, heq, number, BitVec.ofNat_toNat, BitVec.setWidth_eq]

/-- **One pass**: the plan goes on by one number, or a stop request cuts the batch. -/
theorem AtHead.pass_eq_ok {simulation simulation' : Simulation} {pass : Pass}
    (accepted : Accepted environment.calls config)
    (head : AtHead config (packetAt config environment.timestamps) stop m simulation)
    (asked : m < simulation.session.stopCalls) (below : Below config m)
    (h : simulation.pass environment config stop = .ok (pass, simulation')) :
    Passed config (packetAt config environment.timestamps) stop m pass simulation' := by
  obtain ⟨released, completed, step⟩ := plan_step config.faults m
  rw [head.pass_eq accepted step] at h
  obtain ⟨⟨complete, sent⟩, hbatch, hrest⟩ := bind_eq_ok.mp h
  rcases sendBatch_eq_ok hbatch with ⟨rfl, hsends⟩ | ⟨whole, rfl, hsends, rfl⟩
  · -- the batch was cut
    obtain ⟨rfl, rfl⟩ := Prod.mk.inj (Except.ok.inj hrest)
    obtain ⟨gone, left, hsplit, hcut, hreached⟩ := head.reached.prepared.sends hsends
    have hleft : left ≠ [] := fun hnil => Bool.false_ne_true (hcut.mp hnil)
    refine .halted ⟨fun count hcount => below count hcount, ?_, hreached, ?_, hsends.heard rfl⟩
    · rw [step.emitted, hsplit, ← List.append_assoc]
      exact List.prefix_append _ _
    · rw [swapsSent_of_cut step hsplit hleft, ← head.reorder]
      exact congrArg (fun books => books.2.2.1) hsends.books
  · -- the batch is out, and its swap is counted
    obtain ⟨gone, left, hsplit, hwhole, hreached⟩ := head.reached.prepared.sends hsends
    obtain rfl := hwhole.mpr rfl
    rw [List.append_nil] at hsplit
    subst hsplit
    rw [← step.emitted] at hreached
    have hhead : AtHead config (packetAt config environment.timestamps) stop (m + 1)
        { injector := injectorAt config.faults (packetAt config environment.timestamps) (m + 1)
          session := { whole with summary :=
            { whole.summary with reorderEvents :=
              whole.summary.reorderEvents + BitVec.ofNat 64 completed.length } } } := by
      refine ⟨rfl, hreached.countSwaps _, ?_, ?_, Nat.le_trans asked hsends.calls,
        hsends.quiet rfl head.quiet⟩
      · have hreorder : whole.summary.reorderEvents = BitVec.ofNat 64 _ :=
          (congrArg (fun books => books.2.2.1) hsends.books).trans head.reorder
        change whole.summary.reorderEvents + _ = _
        rw [hreorder, step.swaps, List.length_append, BitVec.ofNat_add]
      · have hdelayed : (prepared config.faults m simulation.session).summary.delayedPackets =
            BitVec.ofNat 64 _ := head.delayed
        change whole.summary.delayedPackets = _
        rw [hsends.delayed rfl, hdelayed, step.emitted, List.countP_append, BitVec.ofNat_add]
        exact congrArg _ (congrArg _ List.countP_map)
    exact hhead.afterBatch_eq_ok below hrest

/-! ## The loop -/

/-- How so many passes through the loop can end. -/
inductive Looped (config : SimulatorConfig) (packet : Nat → PendingPacket) (stop : StopPredicate)
    (m : Nat) : Pass → Simulation → Prop where
  | going {simulation} (head : AtHead config packet stop m simulation)
      (below : Below config m) : Looped config packet stop m .again simulation
  | finished {n simulation} (head : AtHead config packet stop n simulation)
      (count : config.packetCount = some (number n)) (small : n < 2 ^ 64) :
      Looped config packet stop m (.left false) simulation
  | halted {stopped m' numbers simulation}
      (halted : Halted config packet stop m' numbers simulation.session)
      (held : stopped = false → simulation.injector = injectorAt config.faults packet m' ∧
        numbers = (plan config.faults m').emitted) :
      Looped config packet stop m (.left stopped) simulation

/-- The count is ahead at the head of the loop. -/
theorem AtHead.countAhead {simulation : Simulation}
    (head : AtHead config packet stop m simulation) (below : Below config m) :
    countAhead config simulation.session = true := by
  unfold Simulation.countAhead
  cases hcount : config.packetCount with
  | none => rfl
  | some count =>
    have hlt := below count hcount
    refine decide_eq_true (BitVec.lt_def.mpr ?_)
    rwa [head.reached.generated, toNat_number (Nat.lt_trans hlt count.isLt)]

/-- **The loop**: pass after pass the plan goes on, until the count is reached or a stop request is
heard. -/
theorem AtHead.loop_eq_ok {simulation simulation' : Simulation} {pass : Pass} {passes : Nat}
    (accepted : Accepted environment.calls config)
    (head : AtHead config (packetAt config environment.timestamps) stop m simulation)
    (below : Below config m)
    (h : simulation.loop environment config stop passes = .ok (pass, simulation')) :
    Looped config (packetAt config environment.timestamps) stop (m + passes) pass simulation' := by
  induction passes generalizing m simulation with
  | zero =>
    obtain ⟨rfl, rfl⟩ := Prod.mk.inj (Except.ok.inj h)
    exact .going head below
  | succ passes ih =>
    have hasked := waits_stopRequested stop simulation.session
    unfold loop at h
    dsimp only at h
    cases hanswer : (simulation.session.stopRequested stop).1 with
    | true =>
      rw [hanswer, Bool.true_or, if_pos rfl] at h
      obtain ⟨rfl, rfl⟩ := Prod.mk.inj (Except.ok.inj h)
      rw [hanswer] at hasked
      exact .halted (head.halted (fun count hcount => Nat.le_of_lt (below count hcount)) hasked)
        fun _ => ⟨head.injector, rfl⟩
    | false =>
      rw [hanswer] at hasked
      have hhead := head.waits hasked
      rw [hanswer, hhead.countAhead below, Bool.not_true, Bool.or_false,
        if_neg Bool.false_ne_true] at h
      obtain ⟨⟨ending, next⟩, hpass, hrest⟩ := bind_eq_ok.mp h
      have hpassed := hhead.pass_eq_ok accepted (Nat.lt_succ_of_le head.calls) below hpass
      cases hpassed with
      | again hnext hbelow =>
        have hlooped := ih hnext hbelow hrest
        rwa [Nat.add_assoc, Nat.add_comm 1 passes] at hlooped
      | finished hnext hcount hsmall =>
        obtain ⟨rfl, rfl⟩ := Prod.mk.inj (Except.ok.inj hrest)
        exact .finished hnext hcount hsmall
      | halted hhalted =>
        obtain ⟨rfl, rfl⟩ := Prod.mk.inj (Except.ok.inj hrest)
        exact .halted hhalted nofun

/-! ## The end of a run -/

/-- A count that is reached is the number of packets generated. -/
theorem toNat_of_count {n : Nat} {count : BitVec 64}
    (h : config.packetCount = some (number n)) (small : n < 2 ^ 64)
    (hcount : config.packetCount = some count) : count.toNat = n := by
  rw [h] at hcount
  rw [← Option.some.inj hcount, toNat_number small]

/-- A stop heard while waiting leaves what was sent before it. -/
theorem Halted.waits {delays : Nat} {stopped : Bool}
    (h : Halted config packet stop m numbers session)
    (wait : Waits stop delays session after stopped) (hyes : stopped = true) :
    Halted config packet stop m numbers after where
  within := h.within
  isPrefix := h.isPrefix
  reached := h.reached.waits wait
  reorder := (congrArg (fun books => books.2.2.1) wait.books).trans h.reorder
  heard := wait.heard hyes

/-- **After the loop**: what is held goes out, unless a stop request is heard first. -/
theorem Looped.flush_eq_ok {simulation : Simulation} {stopped : Bool} (steady : Steady stop)
    (looped : Looped config packet stop m (.left stopped) simulation)
    (h : simulation.flush environment config stop stopped = .ok after) :
    (∃ n, Complete config packet n after) ∨
      ∃ m' numbers, Halted config packet stop m' numbers after := by
  have hasked := waits_stopRequested stop simulation.session
  unfold flush at h
  dsimp only at h
  cases looped with
  | @finished n _ head count small =>
    have hwithin (c : BitVec 64) (hc : config.packetCount = some c) : n ≤ c.toNat :=
      Nat.le_of_eq (toNat_of_count count small hc).symm
    rw [if_neg Bool.false_ne_true] at h
    cases hanswer : (simulation.session.stopRequested stop).1 with
    | true =>
      rw [hanswer, if_pos rfl] at h
      obtain rfl := Except.ok.inj h
      rw [hanswer] at hasked
      exact .inr ⟨n, _, head.halted hwithin hasked⟩
    | false =>
      rw [hanswer, if_neg Bool.false_ne_true, head.injector, finish_injectorAt] at h
      rw [hanswer] at hasked
      have hhead := head.waits hasked
      obtain ⟨⟨complete, sent⟩, hbatch, hrest⟩ := bind_eq_ok.mp h
      obtain rfl := Except.ok.inj hrest
      rcases sendBatch_eq_ok hbatch with ⟨rfl, hsends⟩ | ⟨whole, rfl, hsends, rfl⟩
      · -- one packet at most was held, and it is not out
        obtain ⟨gone, left, hsplit, hcut, hreached⟩ := hhead.reached.sends hsends
        have hleft : left ≠ [] := fun hnil => Bool.false_ne_true (hcut.mp hnil)
        have hgone : gone = [] := by
          have hone : (plan config.faults n).held.toList.length ≤ 1 :=
            Option.length_toList_le
          rw [hsplit, List.length_append] at hone
          have := List.length_pos_of_ne_nil hleft
          exact List.length_eq_zero_iff.mp (by omega)
        rw [hgone, List.append_nil] at hreached
        refine .inr ⟨n, _, hwithin, List.prefix_rfl, hreached, ?_, hsends.heard rfl⟩
        rw [swapsSent_of_subset (List.Subset.refl _), ← hhead.reorder]
        exact congrArg (fun books => books.2.2.1) hsends.books
      · obtain ⟨gone, left, hsplit, hwhole, hreached⟩ := hhead.reached.sends hsends
        obtain rfl := hwhole.mpr rfl
        rw [List.append_nil] at hsplit
        subst hsplit
        refine .inl ⟨n, count, small, hreached.countSwaps _, ?_, ?_⟩
        · refine (BitVec.add_zero _).trans (Eq.trans ?_ hhead.reorder)
          exact congrArg (fun books => books.2.2.1) hsends.books
        · change whole.summary.delayedPackets = _
          rw [hsends.delayed rfl, hhead.delayed, ReorderBuffer.order, List.countP_append,
            BitVec.ofNat_add]
          exact congrArg _ (congrArg _ List.countP_map)
  | @halted _ m' numbers _ halted =>
    cases stopped with
    | true =>
      rw [if_pos rfl] at h
      obtain rfl := Except.ok.inj h
      exact .inr ⟨m', numbers, halted⟩
    | false =>
      have hyes := halted.heard.again steady
      rw [if_neg Bool.false_ne_true, hyes, if_pos rfl] at h
      obtain rfl := Except.ok.inj h
      exact .inr ⟨m', numbers, halted.waits hasked hyes⟩

/-- The same without a word on the stop predicate: what was sent is of the plan. -/
theorem Looped.flush_reached {simulation : Simulation} {stopped : Bool}
    (looped : Looped config packet stop m (.left stopped) simulation)
    (h : simulation.flush environment config stop stopped = .ok after) :
    ∃ m' numbers, Reached config packet m' numbers after ∧
      ∀ k ∈ numbers, k ∈ (plan config.faults m').order := by
  have hasked := waits_stopRequested stop simulation.session
  obtain ⟨n, numbers, hreached, hsubset, hheld⟩ : ∃ n numbers,
      Reached config packet n numbers simulation.session ∧
      (∀ k ∈ numbers, k ∈ (plan config.faults n).order) ∧
      (stopped = false → simulation.injector = injectorAt config.faults packet n) := by
    cases looped with
    | finished head => exact ⟨_, _, head.reached, fun _ => List.mem_append_left _,
        fun _ => head.injector⟩
    | halted halted held => exact ⟨_, _, halted.reached,
        fun _ hk => List.mem_append_left _ (halted.isPrefix.subset hk), fun h => (held h).1⟩
  unfold flush at h
  dsimp only at h
  cases stopped with
  | true =>
    rw [if_pos rfl] at h
    obtain rfl := Except.ok.inj h
    exact ⟨n, numbers, hreached, hsubset⟩
  | false =>
    rw [if_neg Bool.false_ne_true, hheld rfl, finish_injectorAt] at h
    split at h
    · obtain rfl := Except.ok.inj h
      exact ⟨n, numbers, hreached.waits hasked, hsubset⟩
    · obtain ⟨⟨complete, sent⟩, hbatch, hrest⟩ := bind_eq_ok.mp h
      obtain rfl := Except.ok.inj hrest
      have hready := hreached.waits hasked
      have hplanned {gone left : List Nat}
          (hsplit : (plan config.faults n).held.toList = gone ++ left) (k : Nat)
          (hk : k ∈ numbers ++ gone) : k ∈ (plan config.faults n).order := by
        rcases List.mem_append.mp hk with hk | hk
        · exact hsubset k hk
        · exact List.mem_append_right _ (hsplit ▸ List.mem_append_left _ hk)
      rcases sendBatch_eq_ok hbatch with ⟨rfl, hsends⟩ | ⟨whole, rfl, hsends, rfl⟩
      · obtain ⟨gone, left, hsplit, _, hsent⟩ := hready.sends hsends
        exact ⟨n, _, hsent, hplanned hsplit⟩
      · obtain ⟨gone, left, hsplit, _, hsent⟩ := hready.sends hsends
        exact ⟨n, _, hsent.countSwaps _, hplanned hsplit⟩

end Pass

/-! ## The run -/

/-- Where a run can be. -/
inductive Arrived (config : SimulatorConfig) (packet : Nat → PendingPacket) (stop : StopPredicate)
    (passes : Nat) : Outcome → Prop where
  | running {simulation} (head : AtHead config packet stop passes simulation)
      (below : Below config passes) :
      Arrived config packet stop passes (.running simulation.session)
  | complete {n : Nat} {session : Session} (complete : Complete config packet n session) :
      Arrived config packet stop passes (.returned session)
  | halted {m : Nat} {numbers : List Nat} {session : Session}
      (halted : Halted config packet stop m numbers session) :
      Arrived config packet stop passes (.returned session)

/-- Before the first pass. -/
theorem atHead_start (config : SimulatorConfig) (packet : Nat → PendingPacket)
    (stop : StopPredicate) :
    AtHead config packet stop 0 { injector := { config := config.faults } } where
  injector := rfl
  reached := ⟨rfl, rfl, rfl, rfl, ⟨rfl, rfl, rfl⟩⟩
  reorder := rfl
  delayed := rfl
  calls := Nat.zero_le _
  quiet call hcall := absurd hcall (Nat.not_lt_zero call)

/-- An accepted count is not reached at the start. -/
theorem Accepted.below (accepted : Accepted environment.calls config) : Below config 0 := by
  intro count hcount
  refine Nat.pos_of_ne_zero fun hzero => accepted.count ?_
  rw [hcount, BitVec.eq_of_toNat_eq (y := 0#64) hzero]
  rfl

/-- A run that does not throw has gone through its loop and, if that ended, has flushed. -/
theorem runSimulator_looped {passes : Nat} {outcome : Outcome}
    (h : runSimulator environment config (some stop) passes = .ok outcome) :
    Accepted environment.calls config ∧
      ((∃ simulation, outcome = .running simulation.session ∧
          Looped config (packetAt config environment.timestamps) stop passes .again simulation) ∨
        ∃ stopped simulation session, outcome = .returned session ∧
          Looped config (packetAt config environment.timestamps) stop passes (.left stopped)
            simulation ∧
          simulation.flush environment config stop stopped = .ok session) := by
  obtain ⟨_, hvalid, hrun⟩ := bind_eq_ok.mp h
  have accepted := validateRuntimeConfig_iff.mp hvalid
  refine ⟨accepted, ?_⟩
  dsimp only at hrun
  split at hrun
  · cases hrun
  · obtain ⟨⟨ending, simulation⟩, hloop, hrest⟩ := bind_eq_ok.mp hrun
    have hlooped := (atHead_start config (packetAt config environment.timestamps)
      stop).loop_eq_ok accepted accepted.below hloop
    rw [Nat.zero_add] at hlooped
    cases ending with
    | again =>
      obtain rfl := Except.ok.inj hrest
      exact .inl ⟨simulation, rfl, hlooped⟩
    | left stopped =>
      obtain ⟨session, hflush, hreturn⟩ := bind_eq_ok.mp hrest
      obtain rfl := Except.ok.inj hreturn
      exact .inr ⟨stopped, simulation, session, rfl, hlooped, hflush⟩

/-- **Where a run can be**, whatever the stop predicate says, as long as it stays true. -/
theorem runSimulator_eq_ok {passes : Nat} {outcome : Outcome} (steady : Steady stop)
    (h : runSimulator environment config (some stop) passes = .ok outcome) :
    Accepted environment.calls config ∧
      Arrived config (packetAt config environment.timestamps) stop passes outcome := by
  obtain ⟨accepted, hlooped⟩ := runSimulator_looped h
  refine ⟨accepted, ?_⟩
  rcases hlooped with ⟨simulation, rfl, hlooped⟩ | ⟨_, _, session, rfl, hlooped, hflush⟩
  · cases hlooped with
    | going head below => exact .running head below
  · rcases hlooped.flush_eq_ok steady hflush with ⟨n, hcomplete⟩ | ⟨m, numbers, hhalted⟩
    · exact .complete hcomplete
    · exact .halted hhalted

/-- **Whatever a run has sent** is the copies of packets of the plan, even where the stop predicate
takes a yes back. -/
theorem runSimulator_reached {passes : Nat} {outcome : Outcome}
    (h : runSimulator environment config (some stop) passes = .ok outcome) :
    Accepted environment.calls config ∧ ∃ m numbers,
      Reached config (packetAt config environment.timestamps) m numbers outcome.session ∧
        ∀ k ∈ numbers, k ∈ (plan config.faults m).order := by
  obtain ⟨accepted, hlooped⟩ := runSimulator_looped h
  refine ⟨accepted, ?_⟩
  rcases hlooped with ⟨simulation, rfl, hlooped⟩ | ⟨_, _, session, rfl, hlooped, hflush⟩
  · cases hlooped with
    | going head below => exact ⟨_, _, head.reached, fun _ => List.mem_append_left _⟩
  · exact hlooped.flush_reached hflush

/-! ## No run throws where every datagram is sent -/

/-- Corruption keeps the length of the bytes. -/
theorem length_flipLastByte (bytes : Bytes) : (flipLastByte bytes).length = bytes.length :=
  List.length_modify _ _ _

/-- No fault changes the length of a packet. -/
theorem length_pendingPacket (faults : FaultInjectionConfig) (sequenceNumber : BitVec 64)
    (bytes : Bytes) :
    (FaultInjector.pendingPacket faults sequenceNumber bytes).bytes.length = bytes.length := by
  unfold FaultInjector.pendingPacket
  dsimp only
  split
  · exact length_flipLastByte bytes
  · rfl

/-- A packet is as long as its sample, corrupted or not. -/
theorem length_packetAt (config : SimulatorConfig) (timestamps : Nat → BitVec 64) (k : Nat) :
    (packetAt config timestamps k).bytes.length =
      (sampleBytes config (number k) (timestamps (k - 1))).length :=
  length_pendingPacket _ _ _

/-- Every packet of a run fits a datagram. -/
theorem packetAt_fits (accepted : Accepted environment.calls config)
    (timestamps : Nat → BitVec 64) {numbers : List Nat} :
    ∀ packet ∈ numbers.map (packetAt config timestamps),
      packet.bytes.length ≤ kMaxUdpPayloadSize := by
  intro packet hpacket
  obtain ⟨k, _, rfl⟩ := List.mem_map.mp hpacket
  rw [length_packetAt]
  exact length_sampleBytes accepted _ _

/-- A pass over sockets that deliver throws nothing. -/
theorem AtHead.pass_ok {simulation : Simulation} (accepted : Accepted environment.calls config)
    (delivers : Delivers environment config)
    (head : AtHead config (packetAt config environment.timestamps) stop m simulation) :
    ∃ pass next, simulation.pass environment config stop = .ok (pass, next) := by
  obtain ⟨released, completed, step⟩ := plan_step config.faults m
  obtain ⟨complete, sent, hbatch⟩ := sendBatch_ok delivers stop
    (batchOf config.faults (packetAt config environment.timestamps) m released completed)
    (packetAt_fits accepted environment.timestamps)
    (prepared config.faults m simulation.session)
  rw [head.pass_eq accepted step, hbatch]
  change ∃ pass next, afterBatch environment config stop _ (complete, sent) = .ok (pass, next)
  unfold afterBatch
  split
  · exact ⟨_, _, rfl⟩
  · split
    · exact ⟨_, _, rfl⟩
    · exact ⟨_, _, rfl⟩

/-- Neither do any number of passes. -/
theorem AtHead.loop_ok {simulation : Simulation} (accepted : Accepted environment.calls config)
    (delivers : Delivers environment config) (passes : Nat)
    (head : AtHead config (packetAt config environment.timestamps) stop m simulation)
    (below : Below config m) :
    ∃ pass next, simulation.loop environment config stop passes = .ok (pass, next) := by
  induction passes generalizing m simulation with
  | zero => exact ⟨_, _, rfl⟩
  | succ passes ih =>
    have hasked := waits_stopRequested stop simulation.session
    unfold Simulation.loop
    dsimp only
    split
    · exact ⟨_, _, rfl⟩
    next hgoes =>
      have hno : (simulation.session.stopRequested stop).1 = false := by
        cases hanswer : (simulation.session.stopRequested stop).1 with
        | false => rfl
        | true => exact absurd (by rw [hanswer, Bool.true_or]) hgoes
      rw [hno] at hasked
      have hhead := head.waits hasked
      obtain ⟨pass, next, hpass⟩ := hhead.pass_ok accepted delivers
      have hpassed := hhead.pass_eq_ok accepted (Nat.lt_succ_of_le head.calls) below hpass
      rw [hpass]
      cases hpassed with
      | again hnext hbelow => exact ih hnext hbelow
      | finished => exact ⟨_, _, rfl⟩
      | halted => exact ⟨_, _, rfl⟩

/-- **No run throws** where every datagram is sent: not in an encoder, and not in the loop. -/
theorem runSimulator_ok (accepted : Accepted environment.calls config)
    (opens : environment.opens = true) (delivers : Delivers environment config)
    (steady : Steady stop) (passes : Nat) :
    ∃ outcome, runSimulator environment config (some stop) passes = .ok outcome := by
  have hstart := atHead_start config (packetAt config environment.timestamps) stop
  obtain ⟨ending, simulation, hloop⟩ := hstart.loop_ok accepted delivers passes accepted.below
  have hlooped := hstart.loop_eq_ok accepted accepted.below hloop
  rw [runSimulator, validateRuntimeConfig_iff.mpr accepted]
  change ∃ outcome, (if (!environment.opens) = true then _ else _) = Except.ok outcome
  rw [opens, Bool.not_true, if_neg Bool.false_ne_true, hloop]
  cases ending with
  | again => exact ⟨_, rfl⟩
  | left stopped =>
    have hflush : ∃ session, simulation.flush environment config stop stopped = .ok session := by
      unfold Simulation.flush
      dsimp only
      split
      · exact ⟨_, rfl⟩
      next hgoes =>
        split
        · exact ⟨_, rfl⟩
        next hno =>
          cases hlooped with
          | @finished n _ head count small =>
            obtain ⟨complete, sent, hbatch⟩ := sendBatch_ok delivers stop
              { packets :=
                  (plan config.faults n).held.toList.map (packetAt config environment.timestamps) }
              (packetAt_fits accepted environment.timestamps)
              (simulation.session.stopRequested stop).2
            rw [head.injector, finish_injectorAt, hbatch]
            exact ⟨sent, rfl⟩
          | halted halted => exact absurd (halted.heard.again steady) hno
    obtain ⟨session, hflush⟩ := hflush
    refine ⟨.returned session, ?_⟩
    change (simulation.flush environment config stop stopped >>= fun session =>
      Except.ok (Outcome.returned session)) = _
    rw [hflush]
    rfl

/-- **A run returns**: by its count, or once a stop request is made. -/
theorem runSimulator_returns (accepted : Accepted environment.calls config)
    (opens : environment.opens = true) (delivers : Delivers environment config)
    (steady : Steady stop) {passes : Nat}
    (ends : (∃ count, config.packetCount = some count ∧ count.toNat ≤ passes) ∨
      ∃ call, stop call = true ∧ call < passes) :
    ∃ session, runSimulator environment config (some stop) passes = .ok (.returned session) := by
  obtain ⟨outcome, hrun⟩ := runSimulator_ok accepted opens delivers steady passes
  obtain ⟨_, harrived⟩ := runSimulator_eq_ok steady hrun
  cases harrived with
  | running head below =>
    exfalso
    rcases ends with ⟨count, hcount, hle⟩ | ⟨call, hyes, hlt⟩
    · exact Nat.not_lt.mpr hle (below count hcount)
    · have hno := head.quiet call (Nat.lt_of_lt_of_le hlt head.calls)
      rw [hno] at hyes
      cases hyes
  | complete => exact ⟨_, hrun⟩
  | halted => exact ⟨_, hrun⟩

end Run

/-! ## The run nobody interrupts -/

/-- A stop predicate that always says no. -/
def never : StopPredicate := fun _ => false

/-- A predicate that never stops is steady. -/
theorem steady_never : Steady never := fun _ _ _ h => nomatch h

section Uninterrupted

variable {environment : Environment} {config : SimulatorConfig}

/-- **An uninterrupted run** never halts: it has sent the whole plan, or is still going. -/
theorem runSimulator_never {passes : Nat} {outcome : Outcome}
    (h : runSimulator environment config (some never) passes = .ok outcome) :
    Reached config (packetAt config environment.timestamps) passes
        (plan config.faults passes).emitted outcome.session ∧
      outcome = .running outcome.session ∧ Below config passes ∨
    outcome = .returned outcome.session ∧
      ∃ n, Complete config (packetAt config environment.timestamps) n outcome.session := by
  obtain ⟨_, harrived⟩ := runSimulator_eq_ok steady_never h
  cases harrived with
  | running head below => exact .inl ⟨head.reached, rfl, below⟩
  | complete complete => exact .inr ⟨rfl, _, complete⟩
  | halted halted =>
    obtain ⟨_, _, hyes⟩ := halted.heard
    cases hyes

end Uninterrupted

end Driveflow.Simulator
