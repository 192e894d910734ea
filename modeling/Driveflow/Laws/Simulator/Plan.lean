import Driveflow.Library.ReorderBuffer
import Driveflow.Laws.Simulator.Samples

/-!
# The plan of a run

Packets are told apart by how many were generated before them: the `k`-th packet has the sequence
number `number k`, and `k` does not wrap. What goes out, what is held and which swaps were completed
after so many packets depends on the fault configuration alone. It is the reorder buffer fed with
the numbers that are not dropped (`plan`), and the fault injector carries that buffer
(`process_injectorAt`), whatever bytes it is given.
-/

namespace Driveflow.Simulator

open Library Net Protocol

/-- The sequence number of the `k`-th generated packet. -/
def number (k : Nat) : BitVec 64 := BitVec.ofNat 64 k

/-- The sequence numbers count up by one. -/
theorem number_succ (k : Nat) : number (k + 1) = number k + 1 := BitVec.ofNat_add k 1

/-- The sequence number tells the packets apart until it wraps. -/
theorem toNat_number {k : Nat} (h : k < 2 ^ 64) : (number k).toNat = k := Nat.mod_eq_of_lt h

section Plan

variable (faults : FaultInjectionConfig)

def dropped (k : Nat) : Bool := matchesInterval faults.dropEvery (number k)

def droppedNumbers (m : Nat) : List Nat := (List.range' 1 m).filter fun k => dropped faults k

def keptNumbers (m : Nat) : List Nat := (List.range' 1 m).filter fun k => !dropped faults k

/-- The numbers that went out among the first `m`, the one that is held, and the swaps. -/
def plan (m : Nat) : ReorderBuffer Nat :=
  ReorderBuffer.pushAll (fun k => matchesInterval faults.reorderEvery (number k))
    (keptNumbers faults m)

variable {faults} {m : Nat}

/-- The next packet joins the dropped ones if it is dropped. -/
theorem droppedNumbers_succ (m : Nat) :
    droppedNumbers faults (m + 1) =
      droppedNumbers faults m ++ if dropped faults (m + 1) then [m + 1] else [] := by
  rw [droppedNumbers, List.range'_1_concat, List.filter_append, Nat.add_comm 1 m,
    List.filter_singleton]
  cases dropped faults (m + 1) with
  | true => rfl
  | false => rfl

/-- A dropped packet is not kept. -/
theorem keptNumbers_succ_of_dropped (h : dropped faults (m + 1) = true) :
    keptNumbers faults (m + 1) = keptNumbers faults m := by
  rw [keptNumbers, List.range'_1_concat, List.filter_append, Nat.add_comm 1 m,
    List.filter_singleton, h]
  exact List.append_nil _

/-- A packet that is not dropped comes last of those kept. -/
theorem keptNumbers_succ_of_kept (h : dropped faults (m + 1) = false) :
    keptNumbers faults (m + 1) = keptNumbers faults m ++ [m + 1] := by
  rw [keptNumbers, List.range'_1_concat, List.filter_append, Nat.add_comm 1 m,
    List.filter_singleton, h]
  rfl

/-- The numbers kept are those generated so far that are not dropped. -/
theorem mem_keptNumbers {k : Nat} :
    k ∈ keptNumbers faults m ↔ (1 ≤ k ∧ k ≤ m) ∧ dropped faults k = false := by
  rw [keptNumbers, List.mem_filter, List.mem_range'_1, Bool.not_eq_true', Nat.add_comm 1 m,
    Nat.lt_succ_iff]

/-- The numbers kept stand in the order of their generation. -/
theorem pairwise_keptNumbers (m : Nat) : (keptNumbers faults m).Pairwise (· < ·) :=
  (List.pairwise_lt_range' 1).sublist List.filter_sublist

/-- Every generated packet is either dropped or kept. -/
theorem length_dropped_add_length_kept (m : Nat) :
    (droppedNumbers faults m).length + (keptNumbers faults m).length = m := by
  have hsplit := List.length_eq_length_filter_add (l := List.range' 1 m) (dropped faults)
  rw [List.length_range'] at hsplit
  exact hsplit.symm

/-- A dropped packet leaves the plan as it was. -/
theorem plan_succ_of_dropped (h : dropped faults (m + 1) = true) :
    plan faults (m + 1) = plan faults m := by
  rw [plan, keptNumbers_succ_of_dropped h, plan]

/-- A packet that is kept is pushed into the reorder buffer. -/
theorem plan_succ_of_kept (h : dropped faults (m + 1) = false) :
    plan faults (m + 1) =
      (plan faults m).push (fun k => matchesInterval faults.reorderEvery (number k)) (m + 1) := by
  rw [plan, keptNumbers_succ_of_kept h, ReorderBuffer.pushAll_append_singleton, plan]

/-- What the plan orders are the numbers kept, each once. -/
theorem order_plan_perm (m : Nat) : (plan faults m).order.Perm (keptNumbers faults m) :=
  ReorderBuffer.pushAll_perm _ _

/-- No number stands twice in the order of the plan. -/
theorem nodup_order_plan (m : Nat) : (plan faults m).order.Nodup :=
  (order_plan_perm m).nodup_iff.mpr ((pairwise_keptNumbers m).imp Nat.ne_of_lt)

/-- A number stands in the order of the plan exactly if it was generated and not dropped. -/
theorem mem_order_plan {k : Nat} :
    k ∈ (plan faults m).order ↔ (1 ≤ k ∧ k ≤ m) ∧ dropped faults k = false :=
  (order_plan_perm m).mem_iff.trans mem_keptNumbers

/-- No number goes out twice. -/
theorem nodup_emitted_plan (m : Nat) : (plan faults m).emitted.Nodup :=
  (List.nodup_append.mp (nodup_order_plan m)).1

/-- Both numbers of a completed swap went out. -/
theorem mem_emitted_of_mem_swaps_plan {swap : Nat × Nat} (h : swap ∈ (plan faults m).swaps) :
    swap.1 ∈ (plan faults m).emitted ∧ swap.2 ∈ (plan faults m).emitted :=
  ReorderBuffer.mem_emitted_of_mem_swaps _ h

/-! ## One more packet -/

/-- What the next packet adds to the plan: the numbers that go out and the swap completed, which is
of the two numbers that go out. -/
inductive Step (faults : FaultInjectionConfig) (m : Nat) : List Nat → List (Nat × Nat) → Prop where
  | dropped (hdropped : dropped faults (m + 1) = true)
      (hplan : plan faults (m + 1) = plan faults m) : Step faults m [] []
  | sent (hkept : dropped faults (m + 1) = false) (hfree : (plan faults m).held = none)
      (hreorder : matchesInterval faults.reorderEvery (number (m + 1)) = false)
      (hplan : plan faults (m + 1) =
        { emitted := (plan faults m).emitted ++ [m + 1], held := none,
          swaps := (plan faults m).swaps }) :
      Step faults m [m + 1] []
  | held (hkept : dropped faults (m + 1) = false) (hfree : (plan faults m).held = none)
      (hreorder : matchesInterval faults.reorderEvery (number (m + 1)) = true)
      (hplan : plan faults (m + 1) =
        { emitted := (plan faults m).emitted, held := some (m + 1),
          swaps := (plan faults m).swaps }) :
      Step faults m [] []
  | swapped {waiting : Nat} (hkept : dropped faults (m + 1) = false)
      (hheld : (plan faults m).held = some waiting)
      (hplan : plan faults (m + 1) =
        { emitted := (plan faults m).emitted ++ [m + 1, waiting], held := none,
          swaps := (plan faults m).swaps ++ [(waiting, m + 1)] }) :
      Step faults m [m + 1, waiting] [(waiting, m + 1)]

/-- **The four things that can happen to a packet.** -/
theorem plan_step (faults : FaultInjectionConfig) (m : Nat) :
    ∃ released completed, Step faults m released completed := by
  cases hdropped : dropped faults (m + 1) with
  | true => exact ⟨_, _, .dropped hdropped (plan_succ_of_dropped hdropped)⟩
  | false =>
    have hplan := plan_succ_of_kept hdropped
    rcases ReorderBuffer.push_cases
        (fun k => matchesInterval faults.reorderEvery (number k)) (plan faults m) (m + 1) with
      ⟨hfree, hselected, h⟩ | ⟨hfree, hselected, h⟩ | ⟨waiting, hheld, h⟩
    · exact ⟨_, _, .sent hdropped hfree hselected (hplan.trans h)⟩
    · exact ⟨_, _, .held hdropped hfree hselected (hplan.trans h)⟩
    · exact ⟨_, _, .swapped hdropped hheld (hplan.trans h)⟩

namespace Step

variable {released : List Nat} {completed : List (Nat × Nat)}

/-- What a step releases goes out behind what went out before. -/
theorem emitted (step : Step faults m released completed) :
    (plan faults (m + 1)).emitted = (plan faults m).emitted ++ released := by
  cases step with
  | dropped _ hplan => rw [hplan, List.append_nil]
  | sent _ _ _ hplan => rw [hplan]
  | held _ _ _ hplan => rw [hplan, List.append_nil]
  | swapped _ _ hplan => rw [hplan]

/-- What a step completes comes behind the swaps completed before. -/
theorem swaps (step : Step faults m released completed) :
    (plan faults (m + 1)).swaps = (plan faults m).swaps ++ completed := by
  cases step with
  | dropped _ hplan => rw [hplan, List.append_nil]
  | sent _ _ _ hplan => rw [hplan, List.append_nil]
  | held _ _ _ hplan => rw [hplan, List.append_nil]
  | swapped _ _ hplan => rw [hplan]

/-- A swap is completed by the last number that goes out. -/
theorem eq_append_of_mem (step : Step faults m released completed) {swap : Nat × Nat}
    (h : swap ∈ completed) : released = [swap.2] ++ [swap.1] := by
  cases step with
  | dropped | sent | held => exact absurd h List.not_mem_nil
  | swapped => rw [List.mem_singleton.mp h]; rfl

end Step

end Plan

/-! ## The fault injector carries the plan -/

/-- The injector after `m` packets, for the packet of each number. -/
def injectorAt (faults : FaultInjectionConfig) (packet : Nat → PendingPacket) (m : Nat) :
    FaultInjector :=
  { config := faults, heldPacket := (plan faults m).held.map packet }

/-- The batch of a step. -/
def batchOf (faults : FaultInjectionConfig) (packet : Nat → PendingPacket) (m : Nat)
    (released : List Nat) (completed : List (Nat × Nat)) : InjectionBatch :=
  { packets := released.map packet
    packetsDropped := if dropped faults (m + 1) then 1 else 0
    reorderEvents := BitVec.ofNat 64 completed.length }

/-- **One call of `process`**: the batch is what the plan releases, and the injector carries the
plan of one packet more. -/
theorem process_injectorAt {faults : FaultInjectionConfig} {packet : Nat → PendingPacket} {m : Nat}
    {bytes : Bytes} {released : List Nat} {completed : List (Nat × Nat)}
    (step : Step faults m released completed)
    (hpacket : packet (m + 1) = FaultInjector.pendingPacket faults (number (m + 1)) bytes) :
    (injectorAt faults packet m).process (number (m + 1)) bytes =
      (batchOf faults packet m released completed, injectorAt faults packet (m + 1)) := by
  unfold FaultInjector.process injectorAt batchOf
  cases step with
  | dropped hdropped hplan =>
    have hmatches : matchesInterval faults.dropEvery (number (m + 1)) = true := hdropped
    dsimp only
    rw [hplan, if_pos hmatches, if_pos hdropped]
    rfl
  | sent hkept hfree hreorder hplan =>
    have hkept' : ¬ matchesInterval faults.dropEvery (number (m + 1)) = true :=
      Bool.not_eq_true _ ▸ hkept
    rw [hplan, hfree, if_neg hkept', hkept]
    dsimp only [Option.map_none]
    rw [hreorder, ← hpacket]
    rfl
  | held hkept hfree hreorder hplan =>
    have hkept' : ¬ matchesInterval faults.dropEvery (number (m + 1)) = true :=
      Bool.not_eq_true _ ▸ hkept
    rw [hplan, hfree, if_neg hkept', hkept]
    dsimp only [Option.map_none]
    rw [hreorder, ← hpacket]
    rfl
  | swapped hkept hheld hplan =>
    have hkept' : ¬ matchesInterval faults.dropEvery (number (m + 1)) = true :=
      Bool.not_eq_true _ ▸ hkept
    rw [hplan, hheld, if_neg hkept', hkept]
    dsimp only [Option.map_some]
    rw [← hpacket]
    rfl

/-- **`finish` releases what is held**, as no swap. -/
theorem finish_injectorAt (faults : FaultInjectionConfig) (packet : Nat → PendingPacket) (m : Nat) :
    ((injectorAt faults packet m).finish).1 =
      { packets := (plan faults m).held.toList.map packet } := by
  unfold FaultInjector.finish injectorAt
  cases (plan faults m).held with
  | none => rfl
  | some waiting => rfl

end Driveflow.Simulator
