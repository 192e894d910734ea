import Driveflow.Laws.Runtime.ReceiveLoop

/-!
# No datagram starves

How long a datagram waits does not depend on what happens at the other listeners, or on what arrives
after it: each poll that finds its listener ready takes what is ahead of it, up to the limit
(`Advances`), so its place in the queue says by which visit it is taken.
-/

namespace Driveflow.Runtime

open Net Protocol Library

namespace EpollReceiver

/-- A poll that visits the listener. -/
def PollCall.visits (call : PollCall) (index : Nat) : Bool :=
  decide (0 ≤ call.timeout.toInt ∧ call.timeout.toInt ≤ kMaxInt) && decide (index ∈ call.ready)

/-! ## One visit -/

section Visit

variable {calls : SocketCalls} {moments : Nat → Moment} {queues queues' : SocketQueues}

/-- The queues lose nothing. -/
def Kept (moments : Nat → Moment) (queues : SocketQueues) : Prop :=
  ∀ index, arrivedBefore moments queues.receives index =
    (queues.popped index).map (·.1) ++ queues.pending index

/-- How many datagrams have arrived at a listener. -/
def arrivedCount (moments : Nat → Moment) (queues : SocketQueues) (index : Nat) : Nat :=
  (arrivedBefore moments queues.receives index).length

/-- What has arrived stays arrived, and what is taken stays taken. -/
structure Advances (moments : Nat → Moment) (start final : SocketQueues) : Prop where
  kept : Kept moments final
  receives : start.receives ≤ final.receives
  popped : ∀ index, (start.popped index).length ≤ (final.popped index).length

theorem Advances.refl (kept : Kept moments queues) : Advances moments queues queues :=
  ⟨kept, Nat.le_refl _, fun _ => Nat.le_refl _⟩

/-- The queues of a run have advanced from those of any earlier state. -/
theorem Advances.trans {middle : SocketQueues} (first : Advances moments queues middle)
    (second : Advances moments middle queues') : Advances moments queues queues' :=
  ⟨second.kept, first.receives.trans second.receives,
    fun index => (first.popped index).trans (second.popped index)⟩

theorem arrivedBefore_isPrefix {receives later : Nat} (h : receives ≤ later) (index : Nat) :
    arrivedBefore moments receives index <+: arrivedBefore moments later index := by
  induction later, h using Nat.le_induction with
  | base => exact List.prefix_refl _
  | succ later _ ih =>
    rw [arrivedBefore_succ]
    exact ih.trans (List.prefix_append _ _)

/-- No datagram that has arrived is taken back. -/
theorem Advances.arrivedCount_le (h : Advances moments queues queues') (index : Nat) :
    arrivedCount moments queues index ≤ arrivedCount moments queues' index :=
  (arrivedBefore_isPrefix h.receives index).length_le

/-- A receive call takes nothing back. -/
theorem advances_receive (kept : Kept moments queues) (listenerIndex : Nat) :
    Advances moments queues (queues.receive moments listenerIndex).2 where
  kept := kept_receive moments queues listenerIndex kept
  receives := Nat.le_succ _
  popped index := by
    rw [popped_receive, List.length_append]
    exact Nat.le_add_right _ _

/-- A receive call that finds nothing has found the queue empty. -/
theorem pending_of_receive {listenerIndex : Nat}
    (nothing : (queues.receive moments listenerIndex).1.1 = none) :
    (queues.receive moments listenerIndex).2.pending listenerIndex = [] := by
  unfold SocketQueues.receive at nothing ⊢
  dsimp only at nothing ⊢
  rw [Function.update_self, List.head?_eq_none_iff.mp nothing]
  rfl

/-- A socket that has nothing says so. -/
theorem answer_of_tryReceive {answer : Answer} (h : tryReceive calls answer.incoming.1 = .ok none) :
    answer.1 = none := by
  obtain ⟨found, clock⟩ := answer
  cases found with
  | none => rfl
  | some datagram =>
    rw [show (Answer.incoming (some datagram, clock)).1 =
      .datagram datagram.bytes datagram.sender from rfl, tryReceive,
      receiveDatagram_eq (by decide) le_rfl datagram.fits] at h
    cases hsource : fromSockaddr calls datagram.sender <;> rw [hsource] at h <;> cases h

/-- **A visit takes what is there, up to the limit**, of what had arrived when it began. -/
theorem drainQueue_advances {listenerIndex : Nat} {listener : Ipv4Endpoint} {limit : Nat}
    {drained drained' : Drained} (kept : Kept moments queues)
    (h : drainQueue calls moments listenerIndex listener limit queues drained =
      .ok (queues', drained')) :
    Advances moments queues queues' ∧
      min ((queues.popped listenerIndex).length + limit)
          (arrivedCount moments queues listenerIndex) ≤
        (queues'.popped listenerIndex).length := by
  induction limit generalizing queues drained with
  | zero =>
    cases h
    exact ⟨.refl kept, Nat.min_le_left _ _⟩
  | succ limit ih =>
    have hfirst := advances_receive kept listenerIndex
    unfold drainQueue at h
    dsimp only at h
    split at h
    next => cases h
    next htry =>
      -- nothing is left in the queue, so everything has been taken
      cases h
      have hempty := pending_of_receive (answer_of_tryReceive htry)
      have hall := congrArg List.length (hfirst.kept listenerIndex)
      rw [hempty, List.append_nil, List.length_map] at hall
      refine ⟨hfirst, (Nat.min_le_right _ _).trans ?_⟩
      exact (hfirst.arrivedCount_le listenerIndex).trans hall.le
    next datagram htry =>
      obtain ⟨hrest, htaken⟩ := ih hfirst.kept h
      refine ⟨hfirst.trans hrest, le_trans ?_ htaken⟩
      have hone : ((queues.receive moments listenerIndex).2.popped listenerIndex).length =
          (queues.popped listenerIndex).length + 1 := by
        rw [popped_receive, if_pos rfl, List.length_append]
        cases hanswer : (queues.receive moments listenerIndex).1.1 with
        | none =>
          rw [Answer.incoming, hanswer] at htry
          cases htry
        | some datagram => rfl
      have harrived := hfirst.arrivedCount_le listenerIndex
      rw [hone]
      omega

/-- One visit to each ready listener. -/
theorem drainQueues_advances {receiver : EpollReceiver} {ready : List Nat}
    {drained drained' : Drained} (kept : Kept moments queues)
    (h : drainQueues calls moments receiver ready queues drained = .ok (queues', drained')) :
    Advances moments queues queues' ∧
      ∀ index ∈ ready,
        min ((queues.popped index).length + receiver.maxDatagramsPerListenerPerPoll)
            (arrivedCount moments queues index) ≤
          (queues'.popped index).length := by
  induction ready generalizing queues drained with
  | nil =>
    cases h
    exact ⟨.refl kept, fun _ hmem => absurd hmem List.not_mem_nil⟩
  | cons listenerIndex ready ih =>
    unfold drainQueues at h
    split at h
    next => cases h
    next listener _ =>
      obtain ⟨⟨middle, between⟩, hdrain, hrest⟩ := bind_eq_ok.mp h
      obtain ⟨hfirst, htaken⟩ := drainQueue_advances kept hdrain
      obtain ⟨hothers, hall⟩ := ih hfirst.kept hrest
      refine ⟨hfirst.trans hothers, fun index hmem => ?_⟩
      rcases List.mem_cons.mp hmem with rfl | hmem
      · exact htaken.trans (hothers.popped index)
      · have hpopped := hfirst.popped index
        have harrived := hfirst.arrivedCount_le index
        exact le_trans (by omega) (hall index hmem)

end Visit

/-! ## Many polls -/

section Polls

variable {calls : SocketCalls} {moments : Nat → Moment} {receiver : EpollReceiver}
  (named : ∀ address, (calls.inetNtop address).isSome) (distinct : receiver.listeners.Nodup)

include named distinct in
/-- One poll. -/
theorem Service.Sound.poll_advances {service : Service}
    (sound : Service.Sound calls moments receiver service) {call : PollCall}
    (hready : PollCall.Distinct receiver.listeners.length call) :
    Advances moments service.queues (service.poll calls moments call).queues ∧
      ∀ index, call.visits index = true →
        min ((service.queues.popped index).length + receiver.maxDatagramsPerListenerPerPoll)
            (arrivedCount moments service.queues index) ≤
          ((service.poll calls moments call).queues.popped index).length := by
  obtain ⟨-, hpoll⟩ := sound.poll named distinct hready
  split at hpoll
  next hrefused =>
    rw [hpoll]
    refine ⟨.refl sound.sound.kept, fun index hvisits => ?_⟩
    have hvalid := of_decide_eq_true (Bool.and_eq_true_iff.mp hvisits).1
    omega
  next hvalid =>
    obtain ⟨packets, hqueues, -⟩ := hpoll.returns
    rw [pollQueues, if_neg hvalid] at hqueues
    obtain ⟨⟨queues, metrics, found⟩, hdrain, hend⟩ := bind_eq_ok.mp hqueues
    obtain ⟨hadvances, htaken⟩ := drainQueues_advances sound.sound.kept hdrain
    have hfinal : queues = (service.poll calls moments call).queues :=
      congrArg (·.2.1) (Except.ok.inj hend)
    rw [hfinal, sound.limit] at htaken
    rw [hfinal] at hadvances
    exact ⟨hadvances, fun index hvisits =>
      htaken index (of_decide_eq_true (Bool.and_eq_true_iff.mp hvisits).2)⟩

include named distinct in
/-- Any number of polls: the invariant, and what the visits among them have taken. -/
theorem Service.Sound.polls_advance {start : Service}
    (sound : Service.Sound calls moments receiver start) {polls : List PollCall}
    (hready : ∀ call ∈ polls, PollCall.Distinct receiver.listeners.length call) (index : Nat) :
    Service.Sound calls moments receiver (polls.foldl (Service.poll calls moments) start) ∧
      Advances moments start.queues (polls.foldl (Service.poll calls moments) start).queues ∧
      min ((start.queues.popped index).length +
            receiver.maxDatagramsPerListenerPerPoll * polls.countP (·.visits index))
          (arrivedCount moments start.queues index) ≤
        ((polls.foldl (Service.poll calls moments) start).queues.popped index).length := by
  induction polls using List.reverseRecOn with
  | nil => exact ⟨sound, .refl sound.sound.kept, Nat.min_le_left _ _⟩
  | append_singleton polls call ih =>
    obtain ⟨hsound, hadvances, htaken⟩ := ih fun call h => hready call (List.mem_append_left _ h)
    have hcall := hready call (List.mem_append_right _ List.mem_cons_self)
    obtain ⟨hstep, hvisit⟩ := hsound.poll_advances named distinct hcall
    rw [List.foldl_append]
    refine ⟨(hsound.poll named distinct hcall).1, hadvances.trans hstep, ?_⟩
    have hpopped := hstep.popped index
    have harrived := hadvances.arrivedCount_le index
    rw [List.countP_append, List.countP_singleton]
    cases hvisits : call.visits index with
    | false =>
      rw [if_neg Bool.false_ne_true, Nat.add_zero]
      exact htaken.trans hpopped
    | true =>
      have hmore := hvisit index hvisits
      rw [if_pos rfl, Nat.mul_succ]
      generalize receiver.maxDatagramsPerListenerPerPoll * polls.countP _ = visited at htaken ⊢
      show _ ≤ ((Service.poll calls moments _ call).queues.popped index).length
      omega

/-- **No datagram starves.** Of what had arrived at a listener, the polls from then on have taken, in
order, what was taken before and the limit for each of them that finds the listener ready: whatever
arrives meanwhile, and whichever other listeners are ready. -/
theorem receive_progress
    (named : ∀ address, (calls.inetNtop address).isSome) (distinct : receiver.listeners.Nodup)
    {before after : List PollCall}
    (ready : ∀ call ∈ before ++ after, PollCall.Distinct receiver.listeners.length call)
    (index : Nat) :
    (arrivedBefore moments (servePolls calls moments receiver before).queues.receives index).take
        (((servePolls calls moments receiver before).queues.popped index).length +
          receiver.maxDatagramsPerListenerPerPoll * after.countP (·.visits index)) <+:
      ((servePolls calls moments receiver (before ++ after)).queues.popped index).map (·.1) := by
  have hstart := Service.Sound.served moments named distinct
    fun call h => ready call (List.mem_append_left _ h)
  obtain ⟨hsound, hadvances, htaken⟩ := hstart.polls_advance named distinct
    (fun call h => ready call (List.mem_append_right _ h)) index
  have hfinal : after.foldl (Service.poll calls moments) (servePolls calls moments receiver before) =
      servePolls calls moments receiver (before ++ after) := List.foldl_append.symm
  rw [hfinal] at hsound hadvances htaken
  -- both are the beginning of what has arrived by now
  refine List.prefix_of_prefix_length_le ((List.take_prefix _ _).trans
    (@arrivedBefore_isPrefix moments _ _ hadvances.receives index)) ?_ ?_
  · rw [hsound.sound.kept]
    exact List.prefix_append _ _
  · rw [List.length_take, List.length_map]
    exact htaken

/-- Two datagrams wait at the first listener, and another one arrives at each receive call; both are
taken by the second visit. -/
theorem receive_progress_twoListeners :
    let moments := fun call : Nat =>
      Moment.mk (if call = 0 then [(0, emptyImu), (0, emptyImu)] else [(0, emptyImu)]) 5
    let served := fun polls => (servePolls dottedCalls moments twoListeners polls).queues
    let before : List PollCall := [{ ready := [1] }]
    let after : List PollCall := [{ ready := [1, 0] }, { ready := [0] }]
    after.countP (·.visits 0) = 2 ∧
      (arrivedBefore moments (served before).receives 0).take
          (((served before).popped 0).length +
            twoListeners.maxDatagramsPerListenerPerPoll * after.countP (·.visits 0)) <+:
        ((served (before ++ after)).popped 0).map (·.1) := by
  intro moments served before after
  have hready : ∀ call ∈ before ++ after,
      PollCall.Distinct twoListeners.listeners.length call := by
    intro call hcall
    rcases List.mem_cons.mp hcall with rfl | hcall
    · exact ⟨by decide, by decide⟩
    · rcases List.mem_cons.mp hcall with rfl | hlast
      · exact ⟨by decide, by decide⟩
      · rw [List.mem_singleton.mp hlast]
        exact ⟨by decide, by decide⟩
  exact ⟨by decide, receive_progress (fun _ => rfl) (by decide) hready 0⟩

end Polls

end EpollReceiver

end Driveflow.Runtime
