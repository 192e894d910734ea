import Mathlib.Algebra.BigOperators.Group.Finset.Basic
import Driveflow.Runtime.SocketQueues

/-!
# The receive loop

A receiver that is polled again and again, while datagrams arrive at its sockets whenever they like.
The invariant (`Sound`) holds after every single receive call: a listener's packets so far are the
decoded ones of the datagrams popped from its queue, in their order, and the metrics count them, from
whatever the receiver had counted before. `Drains` is what one poll takes from a ready listener.
-/

namespace Driveflow.Runtime

open Net Protocol Library

/-- How many datagrams were popped from this many listeners. -/
def SocketQueues.poppedCount (queues : SocketQueues) (listeners : Nat) : Nat :=
  ∑ index ∈ Finset.range listeners, (queues.popped index).length

/-- The answer a popped datagram was. -/
def Answer.taken (popped : QueuedDatagram × BitVec 64) : Answer := (some popped.1, popped.2)

namespace EpollReceiver

/-! ## What is to be returned -/

/-- The packet a popped datagram stands for, if the decoder has one. -/
def decoded (calls : SocketCalls) (listener : Ipv4Endpoint)
    (popped : QueuedDatagram × BitVec 64) : Option ReceivedPacket := do
  let packet ← (decodePacket popped.1.bytes).bind DecodeResult.packet
  let address ← calls.inetNtop popped.1.sender.address
  some
    { packet, source := { address, port := popped.1.sender.port }, listener,
      receiveTimestampNs := popped.2 }

/-- What arrived at a listener before a receive call. -/
def arrivedBefore (moments : Nat → Moment) (receives : Nat) (listenerIndex : Nat) :
    List QueuedDatagram :=
  (List.range receives).flatMap fun call => arrivalsAt (moments call).arrivals listenerIndex

/-- The packets returned for a listener. -/
def returnedFor (listener : Ipv4Endpoint) (returned : List ReceivedPacket) : List ReceivedPacket :=
  returned.filter fun packet => packet.listener = listener

/-- **What one poll takes from a ready listener**: as many datagrams as it may, or fewer and then
the answer that there are none. -/
def Drains (limit : Nat) (answers : List Answer) : Prop :=
  ∃ datagrams : List (QueuedDatagram × BitVec 64),
    (answers = datagrams.map Answer.taken ∧ datagrams.length = limit) ∨
      ∃ clock, answers = datagrams.map Answer.taken ++ [(none, clock)] ∧ datagrams.length < limit

/-- The invariant of the loops, for a receiver that began with these metrics. -/
structure Sound (calls : SocketCalls) (moments : Nat → Moment) (listeners : List Ipv4Endpoint)
    (first : ReceiverMetrics) (queues : SocketQueues) (metrics : ReceiverMetrics)
    (returned : List ReceivedPacket) : Prop where
  /-- The queues lose nothing. -/
  kept : ∀ index, arrivedBefore moments queues.receives index =
    (queues.popped index).map (·.1) ++ queues.pending index
  inOrder : ∀ index listener, listeners[index]? = some listener →
    returnedFor listener returned = (queues.popped index).filterMap (decoded calls listener)
  received : metrics.datagramsReceived =
    first.datagramsReceived + BitVec.ofNat 64 (queues.poppedCount listeners.length)
  accepted : metrics.packetsAccepted = first.packetsAccepted + BitVec.ofNat 64 returned.length
  /-- Every datagram is accepted or rejected. -/
  outcomes : metrics.datagramsReceived + (first.packetsAccepted + first.packetsRejected) =
    first.datagramsReceived + (metrics.packetsAccepted + metrics.packetsRejected)

/-- The counters of a receiver that has counted nothing before. -/
theorem Sound.of_first {calls : SocketCalls} {moments : Nat → Moment}
    {listeners : List Ipv4Endpoint} {queues : SocketQueues} {metrics : ReceiverMetrics}
    {returned : List ReceivedPacket}
    (sound : Sound calls moments listeners {} queues metrics returned) :
    metrics.datagramsReceived = BitVec.ofNat 64 (queues.poppedCount listeners.length) ∧
      metrics.packetsAccepted = BitVec.ofNat 64 returned.length ∧
      metrics.datagramsReceived = metrics.packetsAccepted + metrics.packetsRejected := by
  refine ⟨?_, ?_, ?_⟩
  · simpa using sound.received
  · simpa using sound.accepted
  · simpa using sound.outcomes

/-! ## One receive call -/

section OneCall

variable (moments : Nat → Moment) (queues : SocketQueues) (listenerIndex : Nat)

/-- What arrives at a receive joins what had arrived before it. -/
theorem arrivedBefore_succ (receives index : Nat) :
    arrivedBefore moments (receives + 1) index =
      arrivedBefore moments receives index ++ arrivalsAt (moments receives).arrivals index := by
  rw [arrivedBefore, List.range_succ, List.flatMap_append, List.flatMap_singleton]
  rfl

/-- A receive pops at its own listener, if there is a datagram. -/
theorem popped_receive (index : Nat) :
    (queues.receive moments listenerIndex).2.popped index = queues.popped index ++
      if index = listenerIndex then
        ((queues.receive moments listenerIndex).1.1.map
          (·, (queues.receive moments listenerIndex).1.2)).toList
      else [] := by
  unfold SocketQueues.popped SocketQueues.receive
  dsimp only
  by_cases hindex : index = listenerIndex
  · subst hindex
    rw [Function.update_self, if_pos rfl, List.filterMap_append, List.filterMap_cons,
      List.filterMap_nil]
    dsimp only
    cases Option.map (·, (moments queues.receives).clock) _ <;> rfl
  · rw [Function.update_of_ne hindex, if_neg hindex, List.append_nil]

/-- What arrives is popped or waits. -/
theorem kept_receive
    (kept : ∀ index, arrivedBefore moments queues.receives index =
      (queues.popped index).map (·.1) ++ queues.pending index) (index : Nat) :
    arrivedBefore moments (queues.receive moments listenerIndex).2.receives index =
      ((queues.receive moments listenerIndex).2.popped index).map (·.1) ++
        (queues.receive moments listenerIndex).2.pending index := by
  rw [popped_receive]
  unfold SocketQueues.receive
  dsimp only
  rw [arrivedBefore_succ, kept, List.append_assoc, List.map_append, List.append_assoc]
  by_cases hindex : index = listenerIndex
  · subst hindex
    rw [if_pos rfl, Function.update_self]
    cases queues.pending index ++ arrivalsAt (moments queues.receives).arrivals index <;> rfl
  · rw [if_neg hindex, Function.update_of_ne hindex]
    rfl

/-- A receive that finds a datagram pops one more. -/
theorem poppedCount_receive {listeners : Nat} (known : listenerIndex < listeners) :
    (queues.receive moments listenerIndex).2.poppedCount listeners =
      queues.poppedCount listeners +
        if (queues.receive moments listenerIndex).1.1.isSome then 1 else 0 := by
  have hlength (index : Nat) :
      ((queues.receive moments listenerIndex).2.popped index).length =
        (queues.popped index).length + if index = listenerIndex then
          (if (queues.receive moments listenerIndex).1.1.isSome then 1 else 0) else 0 := by
    rw [popped_receive, List.length_append]
    cases (queues.receive moments listenerIndex).1.1 with
    | none => split <;> rfl
    | some datagram => split <;> rfl
  unfold SocketQueues.poppedCount
  rw [Finset.sum_congr rfl fun index _ => hlength index, Finset.sum_add_distrib,
    Finset.sum_ite_eq', if_pos (Finset.mem_range.mpr known)]

end OneCall

/-! ## The invariant -/

section Invariant

variable {calls : SocketCalls} {moments : Nat → Moment} {listeners : List Ipv4Endpoint}
  {first : ReceiverMetrics} {listenerIndex : Nat} {listener : Ipv4Endpoint}

/-- A packet is named after the listener it was received at. -/
theorem listener_of_decoded {popped : QueuedDatagram × BitVec 64} {packet : ReceivedPacket}
    (h : decoded calls listener popped = some packet) : packet.listener = listener := by
  obtain ⟨_, _, h⟩ := Option.bind_eq_some_iff.mp h
  obtain ⟨_, _, h⟩ := Option.bind_eq_some_iff.mp h
  cases h
  rfl

/-- The step of the invariant: what a receive call finds is counted and handed on. -/
theorem Sound.receive {queues queues' : SocketQueues} {metrics metrics' : ReceiverMetrics}
    {returned fresh : List ReceivedPacket} {answer : Answer}
    (sound : Sound calls moments listeners first queues metrics returned)
    (known : listeners[listenerIndex]? = some listener) (distinct : listeners.Nodup)
    (hreceive : queues.receive moments listenerIndex = (answer, queues'))
    (hfresh : fresh = ((answer.1.map (·, answer.2)).bind (decoded calls listener)).toList)
    (hreceived : metrics'.datagramsReceived =
      metrics.datagramsReceived + BitVec.ofNat 64 (if answer.1.isSome then 1 else 0))
    (haccepted : metrics'.packetsAccepted =
      metrics.packetsAccepted + BitVec.ofNat 64 fresh.length)
    (houtcomes : metrics'.datagramsReceived + (first.packetsAccepted + first.packetsRejected) =
      first.datagramsReceived + (metrics'.packetsAccepted + metrics'.packetsRejected)) :
    Sound calls moments listeners first queues' metrics' (returned ++ fresh) := by
  have hpopped := popped_receive moments queues listenerIndex
  have hkept := kept_receive moments queues listenerIndex sound.kept
  have hcount := poppedCount_receive moments queues listenerIndex
    (List.getElem?_eq_some_iff.mp known).1
  rw [hreceive] at hpopped hkept hcount
  refine ⟨hkept, fun index other hother => ?_, ?_, ?_, houtcomes⟩
  · have hsplit : returnedFor other (returned ++ fresh) =
        returnedFor other returned ++ returnedFor other fresh := List.filter_append _ _
    rw [hsplit, sound.inOrder index other hother, hpopped, List.filterMap_append, hfresh]
    refine congrArg _ ?_
    cases hanswer : answer.1 with
    | none => split <;> rfl
    | some datagram =>
      rw [Option.map_some, Option.bind_some]
      by_cases hindex : index = listenerIndex
      · subst hindex
        cases known.symm.trans hother
        rw [if_pos rfl, Option.toList_some, List.filterMap_cons, List.filterMap_nil]
        cases hdecoded : decoded calls listener (datagram, answer.2) with
        | none => rfl
        | some packet =>
          exact List.filter_eq_self.mpr fun received hreceived => by
            rw [List.mem_singleton.mp hreceived]
            exact decide_eq_true (listener_of_decoded hdecoded)
      · rw [if_neg hindex, List.filterMap_nil]
        refine List.filter_eq_nil_iff.mpr fun received hreceived hsame => hindex ?_
        have hfrom := listener_of_decoded (Option.mem_toList.mp hreceived)
        rw [of_decide_eq_true hsame] at hfrom
        -- distinct listeners have distinct endpoints
        obtain ⟨hlt, hat⟩ := List.getElem?_eq_some_iff.mp hother
        obtain ⟨hlt', hat'⟩ := List.getElem?_eq_some_iff.mp known
        exact (List.Nodup.getElem_inj_iff distinct).mp (hat.trans (hfrom.trans hat'.symm))
  · rw [hreceived, sound.received, hcount, BitVec.ofNat_add, BitVec.add_assoc]
  · rw [haccepted, sound.accepted, List.length_append, BitVec.ofNat_add, BitVec.add_assoc]

/-- A received datagram, in terms of what it is to be returned as. -/
theorem receiveOne_eq (listener : Ipv4Endpoint) {datagram : QueuedDatagram} {address : String}
    (clock : BitVec 64) (named : calls.inetNtop datagram.sender.address = some address)
    (drained : Drained) :
    ∃ metrics,
      receiveOne listener drained
        { bytes := datagram.bytes, source := { address, port := datagram.sender.port } } clock =
        (metrics, drained.2 ++ (decoded calls listener (datagram, clock)).toList) ∧
      metrics.datagramsReceived = drained.1.datagramsReceived + 1 ∧
      metrics.packetsAccepted = drained.1.packetsAccepted +
        BitVec.ofNat 64 (decoded calls listener (datagram, clock)).toList.length ∧
      metrics.packetsAccepted + metrics.packetsRejected =
        drained.1.packetsAccepted + drained.1.packetsRejected + 1 := by
  obtain ⟨metrics, packets⟩ := drained
  unfold receiveOne decoded
  dsimp only
  cases (decodePacket datagram.bytes).bind DecodeResult.packet with
  | none =>
    exact ⟨{ metrics with
        datagramsReceived := metrics.datagramsReceived + 1
        packetsRejected := metrics.packetsRejected + 1 },
      congrArg (Prod.mk _) (List.append_nil packets).symm, rfl, (BitVec.add_zero _).symm,
      (BitVec.add_assoc _ _ _).symm⟩
  | some packet =>
    rw [named]
    exact ⟨_, rfl, rfl, rfl, add_right_comm _ _ _⟩

end Invariant

/-! ## The loops -/

/-- An empty queue ends the drain at once. -/
theorem Drains.nothing {limit : Nat} (clock : BitVec 64) : Drains (limit + 1) [(none, clock)] :=
  ⟨[], .inr ⟨clock, rfl, Nat.succ_pos limit⟩⟩

/-- A datagram more is a drain under a limit one higher. -/
theorem Drains.cons {limit : Nat} {answers : List Answer} (h : Drains limit answers)
    (popped : QueuedDatagram × BitVec 64) : Drains (limit + 1) (Answer.taken popped :: answers) := by
  obtain ⟨datagrams, ⟨rfl, hlength⟩ | ⟨clock, rfl, hlength⟩⟩ := h
  · exact ⟨popped :: datagrams, .inl ⟨rfl, congrArg (· + 1) hlength⟩⟩
  · exact ⟨popped :: datagrams, .inr ⟨clock, rfl, Nat.succ_lt_succ hlength⟩⟩

section Loops

variable {calls : SocketCalls} {moments : Nat → Moment} {first : ReceiverMetrics}
  (named : ∀ address, (calls.inetNtop address).isSome)

include named in
/-- A queued datagram is received whole, with the address of its sender. -/
theorem exists_tryReceive_eq (datagram : QueuedDatagram) :
    ∃ address, calls.inetNtop datagram.sender.address = some address ∧
      tryReceive calls (.datagram datagram.bytes datagram.sender) =
        .ok (some { bytes := datagram.bytes,
                    source := { address, port := datagram.sender.port } }) := by
  obtain ⟨address, haddress⟩ := Option.isSome_iff_exists.mp (named datagram.sender.address)
  refine ⟨address, haddress, ?_⟩
  rw [tryReceive, receiveDatagram_eq (by decide) le_rfl datagram.fits, fromSockaddr, haddress]
  rfl

include named in
/-- One visit to a ready listener. -/
theorem drainQueue_spec {listeners : List Ipv4Endpoint} (distinct : listeners.Nodup)
    {listenerIndex : Nat} {listener : Ipv4Endpoint}
    (known : listeners[listenerIndex]? = some listener) (limit : Nat) {queues : SocketQueues}
    {drained : Drained} {earlier : List ReceivedPacket}
    (sound : Sound calls moments listeners first queues drained.1 (earlier ++ drained.2)) :
    ∃ queues' drained' fresh,
      drainQueue calls moments listenerIndex listener limit queues drained =
        .ok (queues', drained') ∧
      Sound calls moments listeners first queues' drained'.1 (earlier ++ drained'.2) ∧
      queues'.answers = Function.update queues.answers listenerIndex
        (queues.answers listenerIndex ++ fresh) ∧
      Drains limit fresh := by
  induction limit generalizing queues drained with
  | zero =>
    refine ⟨queues, drained, [], rfl, sound, ?_, [], .inl ⟨rfl, rfl⟩⟩
    rw [List.append_nil, Function.update_eq_self]
  | succ limit ih =>
    unfold drainQueue
    generalize hreceive : queues.receive moments listenerIndex = received
    obtain ⟨⟨found, clock⟩, middle⟩ := received
    have hanswers : middle.answers = Function.update queues.answers listenerIndex
        (queues.answers listenerIndex ++ [(found, clock)]) := by
      cases hreceive
      rfl
    cases found with
    | none =>
      refine ⟨middle, drained, [(none, clock)], rfl, ?_, hanswers, .nothing clock⟩
      have hsame := sound.receive known distinct hreceive rfl (BitVec.add_zero _).symm
        (BitVec.add_zero _).symm sound.outcomes
      rwa [Option.map_none, Option.bind_none, Option.toList_none, List.append_nil] at hsame
    | some datagram =>
      obtain ⟨address, haddress, htry⟩ := exists_tryReceive_eq named datagram
      obtain ⟨metrics, hone, hreceived, haccepted, houtcomes⟩ :=
        receiveOne_eq listener clock haddress drained
      have hnext := sound.receive known distinct hreceive rfl hreceived haccepted
        (by rw [hreceived, houtcomes]; linear_combination sound.outcomes)
      rw [List.append_assoc] at hnext
      obtain ⟨queues', drained', fresh, hdrain, hsound, hfresh, hdrains⟩ :=
        @ih middle (metrics, _) hnext
      refine ⟨queues', drained', (some datagram, clock) :: fresh, ?_, hsound, ?_,
        hdrains.cons (datagram, clock)⟩
      · dsimp only [Answer.incoming, Option.elim_some]
        rw [htry]
        dsimp only
        rw [hone]
        exact hdrain
      · rw [hfresh, hanswers, Function.update_idem, Function.update_self, List.append_assoc]
        rfl

include named in
/-- One visit to each ready listener. -/
theorem drainQueues_spec {receiver : EpollReceiver} (distinct : receiver.listeners.Nodup)
    {ready : List Nat} (known : ∀ index ∈ ready, index < receiver.listeners.length)
    {queues : SocketQueues} {drained : Drained} {earlier : List ReceivedPacket}
    (sound : Sound calls moments receiver.listeners first queues drained.1
      (earlier ++ drained.2)) :
    ∃ queues' drained',
      drainQueues calls moments receiver ready queues drained =
        .ok (queues', drained') ∧
      Sound calls moments receiver.listeners first queues' drained'.1 (earlier ++ drained'.2) ∧
      (∀ index, index ∉ ready → queues'.answers index = queues.answers index) ∧
      (ready.Nodup → ∀ index ∈ ready, ∃ fresh,
        queues'.answers index = queues.answers index ++ fresh ∧
        Drains receiver.maxDatagramsPerListenerPerPoll fresh) := by
  induction ready generalizing queues drained with
  | nil => exact ⟨queues, drained, rfl, sound, fun _ _ => rfl, fun _ _ h => nomatch h⟩
  | cons listenerIndex ready ih =>
    have hlt := known listenerIndex List.mem_cons_self
    have hlistener : receiver.listeners[listenerIndex]? = some receiver.listeners[listenerIndex] :=
      List.getElem?_eq_getElem hlt
    obtain ⟨middle, between, fresh, hdrain, hmiddle, hfresh, hdrains⟩ :=
      drainQueue_spec named distinct hlistener receiver.maxDatagramsPerListenerPerPoll sound
    obtain ⟨queues', drained', hrest, hsound, hothers, hready⟩ :=
      ih (fun index h => known index (List.mem_cons_of_mem _ h)) hmiddle
    refine ⟨queues', drained', ?_, hsound, fun index h => ?_, fun hnodup index h => ?_⟩
    · unfold drainQueues
      rw [hlistener]
      exact bind_eq_ok.mpr ⟨_, hdrain, hrest⟩
    · rw [hothers index fun hlater => h (List.mem_cons_of_mem _ hlater), hfresh,
        Function.update_of_ne (List.ne_of_not_mem_cons h)]
    · obtain ⟨hfirst, hrestNodup⟩ := List.nodup_cons.mp hnodup
      rcases List.mem_cons.mp h with rfl | hlater
      · exact ⟨fresh, by rw [hothers _ hfirst, hfresh, Function.update_self], hdrains⟩
      · obtain ⟨more, hmore, hmoreDrains⟩ := hready hrestNodup index hlater
        have hne : index ≠ listenerIndex := fun heq => hfirst (heq ▸ hlater)
        exact ⟨more, by rw [hmore, hfresh, Function.update_of_ne hne], hmoreDrains⟩

end Loops

/-! ## Polls -/

/-- What a poll takes from the sockets, and returns. -/
structure PollTakes (calls : SocketCalls) (moments : Nat → Moment) (limit : Nat)
    (start : Service) (call : PollCall) (final : Service) : Prop where
  returns : ∃ packets,
    pollQueues calls moments start.receiver start.queues call =
      .ok (final.receiver, final.queues, packets) ∧
    final.returned = start.returned ++ packets
  ready : ∀ index ∈ call.ready, ∃ fresh,
    final.queues.answers index = start.queues.answers index ++ fresh ∧
    Drains limit fresh
  others : ∀ index, index ∉ call.ready →
    final.queues.answers index = start.queues.answers index

/-- The listeners `epoll_wait` finds ready: distinct ones. -/
def PollCall.Distinct (listeners : Nat) (call : PollCall) : Prop :=
  call.ready.Nodup ∧ ∀ index ∈ call.ready, index < listeners

/-- The invariant between the polls of a receiver. -/
structure Service.Sound (calls : SocketCalls) (moments : Nat → Moment) (receiver : EpollReceiver)
    (service : Service) : Prop where
  listeners : service.receiver.listeners = receiver.listeners
  limit : service.receiver.maxDatagramsPerListenerPerPoll =
    receiver.maxDatagramsPerListenerPerPoll
  sound : EpollReceiver.Sound calls moments receiver.listeners receiver.metrics service.queues
    service.receiver.metrics service.returned

section Polls

variable {calls : SocketCalls} {moments : Nat → Moment} {receiver : EpollReceiver}
  (named : ∀ address, (calls.inetNtop address).isSome) (distinct : receiver.listeners.Nodup)

include named distinct in
/-- **The step of a poll**: it throws for its timeout alone, and then nothing has happened. -/
theorem Service.Sound.poll {service : Service}
    (sound : Service.Sound calls moments receiver service) {call : PollCall}
    (hready : PollCall.Distinct receiver.listeners.length call) :
    Service.Sound calls moments receiver (service.poll calls moments call) ∧
      if call.timeout.toInt < 0 ∨ call.timeout.toInt > kMaxInt then
        service.poll calls moments call = service
      else
        PollTakes calls moments receiver.maxDatagramsPerListenerPerPoll service call
          (service.poll calls moments call) := by
  obtain ⟨hlisteners, hlimit, hsound⟩ := sound
  by_cases htimeout : call.timeout.toInt < 0 ∨ call.timeout.toInt > kMaxInt
  · have hsame : service.poll calls moments call = service := by
      rw [Service.poll, pollQueues, if_pos htimeout]
    rw [hsame, if_pos htimeout]
    exact ⟨⟨hlisteners, hlimit, hsound⟩, rfl⟩
  · rw [if_neg htimeout]
    rw [← hlisteners] at hsound hready distinct
    -- a wake-up is counted before the sockets are read, and no invariant speaks of it
    obtain ⟨metrics, hmetrics⟩ : ∃ metrics, metrics = if call.ready.length > 0 then
        { service.receiver.metrics with
          epollWakeups := service.receiver.metrics.epollWakeups + 1 }
      else service.receiver.metrics := ⟨_, rfl⟩
    have hstart : EpollReceiver.Sound calls moments service.receiver.listeners receiver.metrics
        service.queues metrics (service.returned ++ []) := by
      rw [List.append_nil, hmetrics]
      split
      · exact ⟨hsound.kept, hsound.inOrder, hsound.received, hsound.accepted, hsound.outcomes⟩
      · exact hsound
    obtain ⟨queues, drained, hdrain, hfinal, hothers, hdrains⟩ :=
      @drainQueues_spec calls moments receiver.metrics named service.receiver distinct call.ready
        hready.2 service.queues (metrics, []) service.returned hstart
    have hpoll : pollQueues calls moments service.receiver service.queues call =
        .ok ({ service.receiver with metrics := drained.1 }, queues, drained.2) := by
      rw [pollQueues, if_neg htimeout, ← hmetrics]
      exact bind_eq_ok.mpr ⟨_, hdrain, rfl⟩
    have hservice : service.poll calls moments call =
        { receiver := { service.receiver with metrics := drained.1 }, queues,
          returned := service.returned ++ drained.2 } := by
      rw [Service.poll, hpoll]
    rw [hservice]
    rw [hlisteners] at hfinal
    rw [hlimit] at hdrains
    exact ⟨⟨hlisteners, hlimit, hfinal⟩,
      ⟨⟨_, hpoll, rfl⟩, hdrains hready.1, hothers⟩⟩

/-- Before the first poll nothing was read. -/
theorem Service.Sound.start : Service.Sound calls moments receiver { receiver } := by
  have hnone : SocketQueues.poppedCount {} receiver.listeners.length = 0 :=
    Finset.sum_const_zero
  refine ⟨rfl, rfl, fun _ => rfl, fun _ _ _ => rfl, ?_, (BitVec.add_zero _).symm, rfl⟩
  show receiver.metrics.datagramsReceived = _
  rw [hnone]
  exact (BitVec.add_zero _).symm

variable (moments) in
include named distinct in
/-- The invariant of any number of polls. -/
theorem Service.Sound.served {polls : List PollCall}
    (hready : ∀ call ∈ polls, PollCall.Distinct receiver.listeners.length call) :
    Service.Sound calls moments receiver
      (servePolls calls moments receiver polls) := by
  induction polls using List.reverseRecOn with
  | nil => exact .start
  | append_singleton polls call ih =>
    have hbefore := ih fun call h => hready call (List.mem_append_left _ h)
    rw [servePolls, List.foldl_append]
    exact (hbefore.poll named distinct
      (hready call (List.mem_append_right _ List.mem_cons_self))).1

end Polls

/-! ## The theorem -/

/-- What a receiver does over a sequence of polls. -/
structure ReceiveLoop (calls : SocketCalls) (moments : Nat → Moment) (receiver : EpollReceiver)
    (polls : List PollCall) : Prop where
  /-- Every listener's packets are those of its datagrams that decode, in order. -/
  inOrder : ∀ index listener, receiver.listeners[index]? = some listener →
    returnedFor listener (servePolls calls moments receiver polls).returned =
      ((servePolls calls moments receiver polls).queues.popped index).filterMap
        (decoded calls listener)
  /-- Every poll but one whose timeout is refused visits each ready listener. -/
  takes : ∀ before (call : PollCall) after, polls = before ++ call :: after →
    if call.timeout.toInt < 0 ∨ call.timeout.toInt > kMaxInt then
      servePolls calls moments receiver (before ++ [call]) =
        servePolls calls moments receiver before
    else
      PollTakes calls moments receiver.maxDatagramsPerListenerPerPoll
        (servePolls calls moments receiver before) call
        (servePolls calls moments receiver (before ++ [call]))
  outcomes : (servePolls calls moments receiver polls).receiver.metrics.datagramsReceived =
    (servePolls calls moments receiver polls).receiver.metrics.packetsAccepted +
      (servePolls calls moments receiver polls).receiver.metrics.packetsRejected
  received : (servePolls calls moments receiver polls).receiver.metrics.datagramsReceived =
    BitVec.ofNat 64
      ((servePolls calls moments receiver polls).queues.poppedCount receiver.listeners.length)
  accepted : (servePolls calls moments receiver polls).receiver.metrics.packetsAccepted =
    BitVec.ofNat 64 (servePolls calls moments receiver polls).returned.length

/-- A packet without the time at which it came. -/
def untimed (packet : ReceivedPacket) : ReceivedPacket := { packet with receiveTimestampNs := 0 }

/-- The decoder has a packet for the datagram. -/
def decodes (datagram : QueuedDatagram) : Bool :=
  ((decodePacket datagram.bytes).bind DecodeResult.packet).isSome

/-- What was returned for a listener. -/
def returnedPackets (listener : Ipv4Endpoint) (service : Service) : List ReceivedPacket :=
  (returnedFor listener service.returned).map untimed

/-- What still waits for a listener, and will be returned. -/
def waitingPackets (calls : SocketCalls) (listenerIndex : Nat) (listener : Ipv4Endpoint)
    (service : Service) : List ReceivedPacket :=
  (service.queues.pending listenerIndex).filterMap fun datagram =>
    decoded calls listener (datagram, 0)

/-- What arrived at a listener, up to the last receive call. -/
def arrived (moments : Nat → Moment) (listenerIndex : Nat) (service : Service) :
    List QueuedDatagram :=
  arrivedBefore moments service.queues.receives listenerIndex

section Sequence

variable {calls : SocketCalls} {moments : Nat → Moment} {receiver : EpollReceiver}
  {listenerIndex : Nat} {listener : Ipv4Endpoint}

/-- But for its receive time a packet does not depend on the clock. -/
theorem map_untimed_decoded (popped : QueuedDatagram × BitVec 64) :
    (decoded calls listener popped).map untimed = decoded calls listener (popped.1, 0) := by
  unfold decoded
  dsimp only
  cases (decodePacket popped.1.bytes).bind DecodeResult.packet with
  | none => rfl
  | some packet =>
    cases calls.inetNtop popped.1.sender.address <;> rfl

/-- What does not decode makes no packet. -/
theorem decoded_eq_none {datagram : QueuedDatagram} (h : decodes datagram = false)
    (clock : BitVec 64) : decoded calls listener (datagram, clock) = none := by
  have hnone := Option.not_isSome_iff_eq_none.mp (Bool.not_eq_true _ ▸ h)
  rw [decoded, hnone]
  rfl

/-- Where every address has a text, a datagram is handed on exactly if the decoder has a packet. -/
theorem isSome_decoded (named : ∀ address, (calls.inetNtop address).isSome)
    (popped : QueuedDatagram × BitVec 64) :
    (decoded calls listener popped).isSome = decodes popped.1 := by
  obtain ⟨address, haddress⟩ := Option.isSome_iff_exists.mp (named popped.1.sender.address)
  rw [decoded, decodes, haddress]
  cases (decodePacket popped.1.bytes).bind DecodeResult.packet <;> rfl

/-- **Only what decodes matters**: the packets of a listener, returned and waiting, are those of the
decodable datagrams that arrived. -/
theorem Service.Sound.sequence_eq {service : Service}
    (sound : Service.Sound calls moments receiver service)
    (known : receiver.listeners[listenerIndex]? = some listener) :
    returnedPackets listener service ++ waitingPackets calls listenerIndex listener service =
      ((arrived moments listenerIndex service).filter decodes).filterMap fun datagram =>
        decoded calls listener (datagram, 0) := by
  have hreturned : returnedPackets listener service =
      ((service.queues.popped listenerIndex).map (·.1)).filterMap fun datagram =>
        decoded calls listener (datagram, 0) := by
    rw [returnedPackets, sound.sound.inOrder _ _ known, List.map_filterMap, List.filterMap_map]
    exact List.filterMap_congr fun popped _ => map_untimed_decoded popped
  rw [hreturned, waitingPackets, ← List.filterMap_append, ← sound.sound.kept,
    List.filterMap_filter]
  refine List.filterMap_congr fun datagram _ => ?_
  cases hdecodes : decodes datagram with
  | true => rfl
  | false => exact decoded_eq_none hdecodes 0

end Sequence

/-- **Nothing lost, nothing twice, nothing out of order.** No call fails: every address has a text
(`named`), and two sockets never have one endpoint (`distinct`).

A second run, in which the listener got the same decodable datagrams among other undecodable ones,
and was polled otherwise, returns the same packets as far as it has come, and has the rest
waiting. -/
theorem receive_loop {calls : SocketCalls} {config : EpollReceiverConfig}
    {epollCreate1 : Option Nat} {listen : Ipv4Endpoint → Except Exception Ipv4Endpoint}
    {receiver : EpollReceiver} (made : make config epollCreate1 listen = .ok receiver)
    (named : ∀ address, (calls.inetNtop address).isSome) (distinct : receiver.listeners.Nodup)
    {moments : Nat → Moment} {polls : List PollCall}
    (ready : ∀ call ∈ polls, PollCall.Distinct receiver.listeners.length call) :
    ReceiveLoop calls moments receiver polls ∧
      ∀ (moments' : Nat → Moment) (polls' : List PollCall),
        (∀ call ∈ polls', PollCall.Distinct receiver.listeners.length call) →
        ∀ index listener, receiver.listeners[index]? = some listener →
          (arrived moments index (servePolls calls moments receiver polls)).filter decodes =
            (arrived moments' index (servePolls calls moments' receiver polls')).filter decodes →
          returnedPackets listener (servePolls calls moments receiver polls) ++
              waitingPackets calls index listener (servePolls calls moments receiver polls) =
            returnedPackets listener (servePolls calls moments' receiver polls') ++
              waitingPackets calls index listener (servePolls calls moments' receiver polls') := by
  have hfresh : receiver.metrics = {} := by
    obtain ⟨_, _, hlisten⟩ := bind_eq_ok.mp made
    obtain ⟨listeners, _, hend⟩ := bind_eq_ok.mp hlisten
    cases hend
    rfl
  have hsound := Service.Sound.served moments named distinct ready
  have hcounted := hsound.sound
  rw [hfresh] at hcounted
  obtain ⟨hreceived, haccepted, houtcomes⟩ := hcounted.of_first
  refine ⟨⟨hsound.sound.inOrder, ?_, houtcomes, hreceived, haccepted⟩, ?_⟩
  · rintro before call after rfl
    have hbefore := Service.Sound.served moments named distinct
      fun call h => ready call (List.mem_append_left _ h)
    have hstep := (hbefore.poll named distinct
      (ready call (List.mem_append_right _ List.mem_cons_self))).2
    have hnext : servePolls calls moments receiver (before ++ [call]) =
        (servePolls calls moments receiver before).poll calls moments call := by
      rw [servePolls, List.foldl_append]
      rfl
    rwa [hnext]
  · intro moments' polls' ready' index listener known hsame
    have hother := Service.Sound.served moments' named distinct ready'
    rw [hsound.sequence_eq known, hother.sequence_eq known, hsame]

/-- An `inet_ntop` that writes the four bytes of an address. -/
def dottedCalls : SocketCalls where
  inetPton := fun _ => none
  inetNtop := fun address => some (".".intercalate ([24, 16, 8, 0].map fun shift =>
    toString ((address >>> shift).setWidth 8).toNat))
  sendto := fun bytes _ => some bytes.length

/-- A receiver with two listeners, that reads one datagram of each in a poll. -/
def twoListeners : EpollReceiver where
  maxDatagramsPerListenerPerPoll := 1
  listeners := [{ address := "127.0.0.1", port := 9000 }, { address := "127.0.0.1", port := 9001 }]

/-- The datagram of an IMU packet without a payload. -/
def emptyImu : QueuedDatagram where
  bytes := ((encodePacket .kImu 1 0 []).toOption).getD []
  sender := { address := 0x7f000001, port := 40000 }
  fits := by decide +kernel

/-- The packet comes after a byte that is no packet, or alone. -/
theorem receive_loop_twoListeners :
    let noisy := fun call : Nat =>
      if call = 0 then Moment.mk [(0, { emptyImu with bytes := [0], fits := by decide }),
        (0, emptyImu)] 5
      else {}
    let quiet := fun call : Nat => if call = 1 then Moment.mk [(0, emptyImu)] 7 else {}
    let polls : List PollCall := [{ ready := [0, 1] }, { ready := [1, 0] }]
    ReceiveLoop dottedCalls noisy twoListeners polls ∧
      returnedPackets { address := "127.0.0.1", port := 9000 }
          (servePolls dottedCalls noisy twoListeners polls) ++
        waitingPackets dottedCalls 0 { address := "127.0.0.1", port := 9000 }
          (servePolls dottedCalls noisy twoListeners polls) =
      returnedPackets { address := "127.0.0.1", port := 9000 }
          (servePolls dottedCalls quiet twoListeners polls) ++
        waitingPackets dottedCalls 0 { address := "127.0.0.1", port := 9000 }
          (servePolls dottedCalls quiet twoListeners polls) := by
  intro noisy quiet polls
  have hready : ∀ call ∈ polls, PollCall.Distinct twoListeners.listeners.length call := by
    intro call hcall
    rcases List.mem_cons.mp hcall with rfl | hlast
    · exact ⟨by decide, by decide⟩
    · rw [List.mem_singleton.mp hlast]
      exact ⟨by decide, by decide⟩
  have hmade : make
      { listenEndpoints := twoListeners.listeners, maxDatagramsPerListenerPerPoll := 1 } (some 3)
      .ok = .ok twoListeners := by decide
  obtain ⟨hloop, hsame⟩ := @receive_loop dottedCalls _ _ _ _ hmade (fun _ => rfl) (by decide)
    noisy polls hready
  exact ⟨hloop, hsame quiet polls hready 0 _ rfl (by decide +kernel)⟩

end EpollReceiver

end Driveflow.Runtime
