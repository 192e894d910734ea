import Driveflow.Laws.Simulator.Summary

/-!
# The documented swap

The fault injector is a machine with one slot. What it returns for the packets `1..n` and at the end
is one list, and that list is the documented one: the numbers that are not dropped, each number that
matches the reorder rule swapped with the next. Every packet is made of its own number and bytes,
wherever it ends up.
-/

namespace Driveflow.Simulator

open Library Net Protocol

/-- The batches that `process` returns for the numbers `1..m`, put together, and the injector
then. -/
def processAll (faults : FaultInjectionConfig) (bytes : Nat → Bytes) :
    Nat → List PendingPacket × FaultInjector
  | 0 => ([], { config := faults })
  | m + 1 =>
    let (packets, injector) := processAll faults bytes m
    let (batch, injector) := injector.process (number (m + 1)) (bytes (m + 1))
    (packets ++ batch.packets, injector)

/-- All of that, and then the batch of `finish`. -/
def injected (faults : FaultInjectionConfig) (bytes : Nat → Bytes) (n : Nat) :
    List PendingPacket :=
  (processAll faults bytes n).1 ++ (processAll faults bytes n).2.finish.1.packets

/-- The numbers `1..n` that `drop_every` does not divide. -/
def sendable (faults : FaultInjectionConfig) (n : Nat) : List Nat :=
  (List.range' 1 n).filter fun s => ¬ Divides faults.dropEvery s

/-- The order in which they should go out. -/
def documentedOrder (faults : FaultInjectionConfig) (n : Nat) : List Nat :=
  ReorderBuffer.swapSelected (fun s => Divides faults.reorderEvery s) (sendable faults n)

example : documentedOrder { reorderEvery := some 2 } 5 = [1, 3, 2, 5, 4] := rfl

/-- The packet of a number, by its own bytes and number. -/
def ownPacket (faults : FaultInjectionConfig) (s : Nat) (bytes : Bytes) : PendingPacket where
  bytes := if Divides faults.corruptEvery s then flipLastByte bytes else bytes
  duplicate := Divides faults.duplicateEvery s
  corrupted := Divides faults.corruptEvery s
  delay :=
    match faults.delay with
    | some delay => if delay.every.toNat ∣ s then delay.duration else 0
    | none => 0

section Injector

variable {faults : FaultInjectionConfig} {bytes : Nat → Bytes} {n : Nat}

/-- The injector makes of a packet what its own number calls for. -/
theorem pendingPacket_eq {s : Nat} (small : s < 2 ^ 64) (bytes : Bytes) :
    FaultInjector.pendingPacket faults (number s) bytes = ownPacket faults s bytes := by
  have hbytes : (if matchesInterval faults.corruptEvery (number s) && !bytes.isEmpty then
      flipLastByte bytes else bytes) =
      if Divides faults.corruptEvery s then flipLastByte bytes else bytes := by
    cases bytes with
    | nil =>
      rw [List.isEmpty_nil, Bool.not_true, Bool.and_false, if_neg Bool.false_ne_true]
      exact (ite_self _).symm
    | cons byte rest =>
      rw [List.isEmpty_cons, Bool.not_false, Bool.and_true]
      exact if_congr (matchesInterval_iff small) rfl rfl
  have hdelay : FaultInjector.delayFor faults (number s) = (ownPacket faults s bytes).delay := by
    unfold FaultInjector.delayFor ownPacket
    cases faults.delay with
    | none => rfl
    | some delay =>
      have hmatches : matchesInterval (some delay.every) (number s) = true ↔ _ :=
        matchesInterval_iff small
      rw [matchesInterval, decide_eq_true_iff] at hmatches
      refine if_congr (hmatches.trans ⟨?_, fun hdvd => ⟨_, rfl, hdvd⟩⟩) rfl rfl
      rintro ⟨every, hevery, hdvd⟩
      exact Option.some.inj hevery ▸ hdvd
  unfold FaultInjector.pendingPacket
  dsimp only
  rw [hbytes, hdelay, ← decide_divides small, ← decide_divides small]
  rfl

/-- What can be sent are the numbers kept. -/
theorem sendable_eq (small : n < 2 ^ 64) : sendable faults n = keptNumbers faults n := by
  refine List.filter_congr fun s hs => ?_
  rw [dropped, ← decide_divides (lt_of_mem_range' small hs), decide_not]

/-- The injector carries the plan, and what it has returned is what the plan has sent. -/
theorem processAll_eq (m : Nat) :
    processAll faults bytes m =
      ((plan faults m).emitted.map fun s =>
          FaultInjector.pendingPacket faults (number s) (bytes s),
        injectorAt faults
          (fun s => FaultInjector.pendingPacket faults (number s) (bytes s)) m) := by
  induction m with
  | zero => rfl
  | succ m ih =>
    obtain ⟨released, completed, step⟩ := plan_step faults m
    rw [processAll, ih]
    dsimp only
    rw [process_injectorAt step rfl, step.emitted, List.map_append]
    rfl

/-- The whole plan is the documented order. -/
theorem order_plan_eq (small : n < 2 ^ 64) :
    (plan faults n).order = documentedOrder faults n := by
  rw [plan, ReorderBuffer.order_pushAll, ← sendable_eq small, documentedOrder]
  refine ReorderBuffer.swapSelected_congr fun s hs => ?_
  exact (decide_divides (lt_of_mem_range' small (List.mem_filter.mp hs).1)).symm

end Injector

/-- What the injector does with the packets `1..n`. -/
structure RealisesSwap (faults : FaultInjectionConfig) (bytes : Nat → Bytes) (n : Nat) : Prop where
  refines : injected faults bytes n =
    (documentedOrder faults n).map fun s => ownPacket faults s (bytes s)
  once : (documentedOrder faults n).Perm (sendable faults n) ∧ (sendable faults n).Nodup
  near : ∀ i s, (sendable faults n)[i]? = some s →
    ∃ j, (documentedOrder faults n)[j]? = some s ∧ j ≤ i + 1 ∧ i ≤ j + 1
  oneHeld : ∀ m, m ≤ n →
    (processAll faults bytes m).1.length ≤ (sendable faults m).length ∧
      (sendable faults m).length ≤ (processAll faults bytes m).1.length + 1
  noneHeld : (processAll faults bytes n).2.finish.2.heldPacket = none

/-- **The fault injector realises the documented swap**, for every configuration and every number
of packets that a sequence number can count. -/
theorem injector_realises_swap (faults : FaultInjectionConfig) (bytes : Nat → Bytes)
    (n : BitVec 64) : RealisesSwap faults bytes n.toNat where
  refines := by
    have hsmall := n.isLt
    have hown : (plan faults n.toNat).order.map (fun s =>
        FaultInjector.pendingPacket faults (number s) (bytes s)) =
        (plan faults n.toNat).order.map fun s => ownPacket faults s (bytes s) := by
      refine List.map_congr_left fun s hs => pendingPacket_eq ?_ (bytes s)
      exact Nat.lt_of_le_of_lt (mem_order_plan.mp hs).1.2 hsmall
    rw [injected, processAll_eq, finish_injectorAt, ← List.map_append, ← order_plan_eq hsmall,
      ← hown]
    rfl
  once := by
    rw [← order_plan_eq n.isLt, sendable_eq n.isLt]
    exact ⟨order_plan_perm _, (pairwise_keptNumbers _).imp Nat.ne_of_lt⟩
  near i s h := ReorderBuffer.getElem?_swapSelected _ h
  oneHeld m hm := by
    have hlength : (plan faults m).order.length = _ := (order_plan_perm m).length_eq
    rw [ReorderBuffer.order, List.length_append] at hlength
    rw [processAll_eq, sendable_eq (Nat.lt_of_le_of_lt hm n.isLt), List.length_map, ← hlength]
    refine ⟨Nat.le_add_right _ _, Nat.add_le_add_left ?_ _⟩
    cases (plan faults m).held with
    | none => exact Nat.zero_le 1
    | some waiting => exact Nat.le_refl 1
  noneHeld := by
    unfold FaultInjector.finish
    cases hheld : (processAll faults bytes n.toNat).2.heldPacket with
    | none => exact hheld
    | some waiting => rfl

end Driveflow.Simulator
