import Mathlib.Logic.Function.Basic
import Driveflow.Runtime.EpollReceiver

/-!
# The receiver and its sockets

The loops of `EpollReceiver::poll` once more, against sockets that have a state: a queue each, into
which datagrams may arrive before any receive call, and from which the call takes the head.
`EpollReceiver` has what the calls find as a list; `exists_poll_eq` says that the two are one
program.
-/

namespace Driveflow.Runtime

open Net Protocol Library

/-- A datagram on its way, no longer than UDP allows. -/
structure QueuedDatagram where
  bytes : Bytes
  sender : Sockaddr
  fits : bytes.length ≤ kMaxUdpPayloadSize
  deriving DecidableEq, Repr

/-- What happens up to a receive call: what arrives, at which listeners, and the clock after it. -/
structure Moment where
  arrivals : List (Nat × QueuedDatagram) := []
  clock : BitVec 64 := 0
  deriving DecidableEq, Repr

/-- The datagrams for one listener. -/
def arrivalsAt (arrivals : List (Nat × QueuedDatagram)) (listenerIndex : Nat) :
    List QueuedDatagram :=
  arrivals.filterMap fun arrival =>
    if arrival.1 = listenerIndex then some arrival.2 else none

/-- What a receive call finds, with the clock after it. -/
abbrev Answer := Option QueuedDatagram × BitVec 64

/-- The answer as `recvmsg` gives it. -/
def Answer.incoming (answer : Answer) : Incoming × BitVec 64 :=
  (answer.1.elim .wouldBlock fun datagram => .datagram datagram.bytes datagram.sender, answer.2)

/-- The sockets of the listeners, with every answer they gave. -/
structure SocketQueues where
  pending : Nat → List QueuedDatagram := fun _ => []
  answers : Nat → List Answer := fun _ => []
  receives : Nat := 0

namespace SocketQueues

/-- The next receive call, on the socket of a listener. -/
def receive (moments : Nat → Moment) (queues : SocketQueues) (listenerIndex : Nat) :
    Answer × SocketQueues :=
  let moment := moments queues.receives
  let pending := fun index => queues.pending index ++ arrivalsAt moment.arrivals index
  let answer := ((pending listenerIndex).head?, moment.clock)
  (answer,
    { pending := Function.update pending listenerIndex (pending listenerIndex).tail
      answers := Function.update queues.answers listenerIndex
        (queues.answers listenerIndex ++ [answer])
      receives := queues.receives + 1 })

/-- The datagrams taken from a queue so far, with the clock after each. -/
def popped (queues : SocketQueues) (listenerIndex : Nat) : List (QueuedDatagram × BitVec 64) :=
  (queues.answers listenerIndex).filterMap fun answer => answer.1.map (·, answer.2)

end SocketQueues

namespace EpollReceiver

/-- The inner loop of `poll`, over at most so many datagrams. -/
def drainQueue (calls : SocketCalls) (moments : Nat → Moment) (listenerIndex : Nat)
    (listener : Ipv4Endpoint) :
    Nat → SocketQueues → Drained → Except Exception (SocketQueues × Drained)
  | 0, queues, drained => .ok (queues, drained)
  | limit + 1, queues, drained =>
    let (answer, queues) := queues.receive moments listenerIndex
    match tryReceive calls answer.incoming.1 with
    | .error exception => .error exception
    | .ok none => .ok (queues, drained)
    | .ok (some datagram) =>
      drainQueue calls moments listenerIndex listener limit queues
        (receiveOne listener drained datagram answer.2)

/-- The outer loop of `poll`. -/
def drainQueues (calls : SocketCalls) (moments : Nat → Moment) (receiver : EpollReceiver) :
    List Nat → SocketQueues → Drained → Except Exception (SocketQueues × Drained)
  | [], queues, drained => .ok (queues, drained)
  | listenerIndex :: ready, queues, drained =>
    match receiver.listeners[listenerIndex]? with
    | none => .error (.runtimeError "epoll returned an unknown listener")
    | some listener => do
      let (queues, drained) ← drainQueue calls moments listenerIndex listener
        receiver.maxDatagramsPerListenerPerPoll queues drained
      drainQueues calls moments receiver ready queues drained

/-- A call of `poll`, with the listeners that `epoll_wait` finds ready. -/
structure PollCall where
  timeout : BitVec 64 := 0
  ready : List Nat
  deriving DecidableEq, Repr

/-- `poll`, for an `epoll_wait` that does not fail. -/
def pollQueues (calls : SocketCalls) (moments : Nat → Moment) (receiver : EpollReceiver)
    (queues : SocketQueues) (call : PollCall) :
    Except Exception (EpollReceiver × SocketQueues × List ReceivedPacket) :=
  if call.timeout.toInt < 0 ∨ call.timeout.toInt > kMaxInt then
    .error (.invalidArgument "epoll timeout must fit a non-negative int")
  else do
    let metrics :=
      if call.ready.length > 0 then
        { receiver.metrics with epollWakeups := receiver.metrics.epollWakeups + 1 }
      else receiver.metrics
    let (queues, metrics, packets) ←
      drainQueues calls moments receiver call.ready queues (metrics, [])
    .ok ({ receiver with metrics }, queues, packets)

/-- The receiver, its sockets, and the packets of all polls. -/
structure Service where
  receiver : EpollReceiver
  queues : SocketQueues := {}
  returned : List ReceivedPacket := []

/-- One poll more. One that throws has no packets, and has read nothing
(`Service.Sound.poll`). -/
def Service.poll (calls : SocketCalls) (moments : Nat → Moment) (service : Service)
    (call : PollCall) : Service :=
  match pollQueues calls moments service.receiver service.queues call with
  | .error _ => service
  | .ok (receiver, queues, packets) =>
    { receiver, queues, returned := service.returned ++ packets }

/-- A receiver polled again and again. -/
def servePolls (calls : SocketCalls) (moments : Nat → Moment) (receiver : EpollReceiver)
    (polls : List PollCall) : Service :=
  polls.foldl (Service.poll calls moments) { receiver }

/-! ## The same program -/

section SameProgram

variable {calls : SocketCalls} {moments : Nat → Moment}

/-- Draining a queue is draining the answers that it gives. -/
theorem exists_drain_eq {listenerIndex : Nat} {listener : Ipv4Endpoint} {limit : Nat}
    {queues queues' : SocketQueues} {drained drained' : Drained}
    (h : drainQueue calls moments listenerIndex listener limit queues drained =
      .ok (queues', drained')) :
    ∃ fresh : List Answer,
      queues'.answers = Function.update queues.answers listenerIndex
        (queues.answers listenerIndex ++ fresh) ∧
      drain calls listener limit (fresh.map Answer.incoming) drained = .ok drained' := by
  induction limit generalizing queues drained with
  | zero =>
    cases h
    exact ⟨[], by rw [List.append_nil, Function.update_eq_self], rfl⟩
  | succ limit ih =>
    unfold drainQueue at h
    generalize hreceive : queues.receive moments listenerIndex = received at h
    obtain ⟨answer, middle⟩ := received
    have hanswers : middle.answers = Function.update queues.answers listenerIndex
        (queues.answers listenerIndex ++ [answer]) := by
      cases hreceive
      rfl
    dsimp only at h
    cases htry : tryReceive calls answer.incoming.1 with
    | error exception =>
      rw [htry] at h
      exact nomatch h
    | ok received =>
      rw [htry] at h
      cases received with
      | none =>
        cases h
        refine ⟨[answer], hanswers, ?_⟩
        rw [List.map_cons, drain, htry]
      | some datagram =>
        obtain ⟨fresh, hfresh, hdrain⟩ := ih h
        refine ⟨answer :: fresh, ?_, ?_⟩
        · rw [hfresh, hanswers, Function.update_idem, Function.update_self, List.append_assoc]
          rfl
        · rw [List.map_cons, drain, htry]
          exact hdrain

/-- A ready listener with what its socket answered, as `EpollReceiver` has it. -/
def readyEvent (entry : Nat × List Answer) : ReadyEvent :=
  { listenerIndex := entry.1, incoming := entry.2.map Answer.incoming }

/-- What one socket answered. -/
def answersOf (entries : List (Nat × List Answer)) (listenerIndex : Nat) : List Answer :=
  entries.flatMap fun entry => if entry.1 = listenerIndex then entry.2 else []

/-- Draining the queues is draining their answers, listener after listener. -/
theorem exists_drainAll_eq {receiver : EpollReceiver} {ready : List Nat}
    {queues queues' : SocketQueues} {drained drained' : Drained}
    (h : drainQueues calls moments receiver ready queues drained = .ok (queues', drained')) :
    ∃ entries : List (Nat × List Answer), entries.map (·.1) = ready ∧
      (∀ index, queues'.answers index = queues.answers index ++ answersOf entries index) ∧
      drainAll calls receiver (entries.map readyEvent) drained = .ok drained' := by
  induction ready generalizing queues drained with
  | nil =>
    cases h
    exact ⟨[], rfl, fun _ => (List.append_nil _).symm, rfl⟩
  | cons listenerIndex ready ih =>
    unfold drainQueues at h
    cases hlistener : receiver.listeners[listenerIndex]? with
    | none =>
      rw [hlistener] at h
      exact nomatch h
    | some listener =>
      rw [hlistener] at h
      obtain ⟨⟨middle, between⟩, hdrain, hrest⟩ := bind_eq_ok.mp h
      obtain ⟨fresh, hanswers, hsame⟩ := exists_drain_eq hdrain
      obtain ⟨entries, hready, hall, hrestSame⟩ := ih hrest
      refine ⟨(listenerIndex, fresh) :: entries, congrArg _ hready, fun index => ?_, ?_⟩
      · rw [hall, hanswers, answersOf, answersOf, List.flatMap_cons]
        by_cases hindex : listenerIndex = index
        · rw [← hindex, Function.update_self, if_pos rfl, List.append_assoc]
        · rw [Function.update_of_ne (Ne.symm hindex), if_neg hindex, List.nil_append]
      · have hreadable : ¬ (!(readyEvent (listenerIndex, fresh)).readable) = true :=
          Bool.false_ne_true
        rw [List.map_cons, drainAll, if_neg hreadable]
        dsimp only [readyEvent]
        rw [hlistener]
        exact bind_eq_ok.mpr ⟨between, hsame, hrestSame⟩

/-- **The loops on the sockets are the loops on their answers.** -/
theorem exists_poll_eq {receiver receiver' : EpollReceiver} {queues queues' : SocketQueues}
    {call : PollCall} {packets : List ReceivedPacket}
    (h : pollQueues calls moments receiver queues call = .ok (receiver', queues', packets)) :
    ∃ entries : List (Nat × List Answer), entries.map (·.1) = call.ready ∧
      (∀ index, queues'.answers index = queues.answers index ++ answersOf entries index) ∧
      poll receiver call.timeout calls (fun _ => .ready (entries.map readyEvent)) =
        .ok (receiver', packets) := by
  unfold pollQueues at h
  by_cases htimeout : call.timeout.toInt < 0 ∨ call.timeout.toInt > kMaxInt
  · rw [if_pos htimeout] at h
    exact nomatch h
  · rw [if_neg htimeout] at h
    obtain ⟨⟨middle, metrics, found⟩, hdrain, hend⟩ := bind_eq_ok.mp h
    cases hend
    obtain ⟨entries, hready, hanswers, hsame⟩ := exists_drainAll_eq hdrain
    have hlength : (entries.map readyEvent).length = call.ready.length := by
      rw [List.length_map, ← hready, List.length_map]
    refine ⟨entries, hready, hanswers, ?_⟩
    rw [poll, if_neg htimeout]
    dsimp only
    rw [hlength]
    exact bind_eq_ok.mpr ⟨_, hsame, rfl⟩

end SameProgram

end EpollReceiver

end Driveflow.Runtime
