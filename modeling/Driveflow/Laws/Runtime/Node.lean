import Driveflow.Laws.Protocol.PacketLayout
import Driveflow.Laws.Runtime.HandedSamples
import Driveflow.Laws.Runtime.Polls
import Driveflow.Laws.Runtime.ReceiveLoop
import Driveflow.Runtime.Node

/-!
# From the sockets to the sample handler

What a run makes of the datagrams that arrive at its sockets. The receiver hands on what it decodes
(`Sound`), the I/O thread considers what the receiver hands on (`considered_sublist`), and the
workers hand out the samples of what was accepted. Put together, a sample that reaches the handler is
a datagram that arrived, read back to the byte, and no datagram is read twice; and when `run` returns
every datagram that was taken from a socket has an account.
-/

namespace Driveflow.Runtime

open Library Net Protocol

namespace EpollReceiver

/-! ## One poll -/

section OnePoll

variable {calls : SocketCalls} {moments : Nat → Moment}

/-- What the inner loop adds: packets of its listener, and no more than it may. -/
theorem drainQueue_adds {listenerIndex : Nat} {listener : Ipv4Endpoint} {limit : Nat}
    {queues queues' : SocketQueues} {drained drained' : Drained}
    (h : drainQueue calls moments listenerIndex listener limit queues drained =
      .ok (queues', drained')) :
    ∃ added, drained'.2 = drained.2 ++ added ∧ added.length ≤ limit ∧
      ∀ packet ∈ added, packet.listener = listener := by
  induction limit generalizing queues drained with
  | zero =>
    cases h
    exact ⟨[], (List.append_nil _).symm, Nat.le_refl _, by simp⟩
  | succ limit ih =>
    unfold drainQueue at h
    dsimp only at h
    split at h
    next => cases h
    next =>
      cases h
      exact ⟨[], (List.append_nil _).symm, Nat.zero_le _, by simp⟩
    next datagram _ =>
      obtain ⟨added, hadded, hlength, hlistener⟩ := ih h
      unfold receiveOne at hadded
      dsimp only at hadded
      split at hadded
      next => exact ⟨added, hadded, Nat.le_succ_of_le hlength, hlistener⟩
      next packet _ =>
        dsimp only at hadded
        rw [List.append_assoc] at hadded
        refine ⟨_, hadded, Nat.succ_le_succ hlength, fun packet hmem => ?_⟩
        rcases List.mem_cons.mp hmem with rfl | hmem
        · rfl
        · exact hlistener packet hmem

/-- A poll returns packets of its own listeners only, and no more than its limits allow. -/
theorem drainQueues_adds {receiver : EpollReceiver} {ready : List Nat}
    {queues queues' : SocketQueues} {drained drained' : Drained}
    (h : drainQueues calls moments receiver ready queues drained = .ok (queues', drained')) :
    ∃ added, drained'.2 = drained.2 ++ added ∧
      added.length ≤ ready.length * receiver.maxDatagramsPerListenerPerPoll ∧
      ∀ packet ∈ added, packet.listener ∈ receiver.listeners := by
  induction ready generalizing queues drained with
  | nil =>
    cases h
    exact ⟨[], (List.append_nil _).symm, Nat.zero_le _, by simp⟩
  | cons listenerIndex ready ih =>
    unfold drainQueues at h
    split at h
    next => cases h
    next listener hlistener =>
      obtain ⟨⟨middle, between⟩, hdrain, hrest⟩ := bind_eq_ok.mp h
      obtain ⟨first, hfirst, hfirstLength, hfirstListener⟩ := drainQueue_adds hdrain
      obtain ⟨rest, hadded, hlength, hknown⟩ := ih hrest
      refine ⟨first ++ rest, ?_, ?_, ?_⟩
      · rw [hadded, hfirst, List.append_assoc]
      · rw [List.length_append, List.length_cons, Nat.succ_mul, Nat.add_comm]
        exact Nat.add_le_add hlength hfirstLength
      · intro packet hmem
        rcases List.mem_append.mp hmem with hmem | hmem
        · rw [hfirstListener packet hmem]
          exact List.mem_of_getElem? hlistener
        · exact hknown packet hmem

/-- **What a poll returns**: packets of the receiver's listeners, and of each ready one no more than
it may read. -/
theorem pollQueues_returns {receiver receiver' : EpollReceiver} {queues queues' : SocketQueues}
    {call : PollCall} {packets : List ReceivedPacket}
    (h : pollQueues calls moments receiver queues call = .ok (receiver', queues', packets)) :
    packets.length ≤ call.ready.length * receiver.maxDatagramsPerListenerPerPoll ∧
      ∀ packet ∈ packets, packet.listener ∈ receiver.listeners := by
  unfold pollQueues at h
  split at h
  next => cases h
  next =>
    obtain ⟨⟨middle, metrics, found⟩, hdrain, hend⟩ := bind_eq_ok.mp h
    cases hend
    obtain ⟨added, hadded, hreturns⟩ := drainQueues_adds hdrain
    rw [List.nil_append] at hadded
    subst hadded
    exact hreturns

end OnePoll

end EpollReceiver

namespace Node

open EpollReceiver (Service PollCall pollQueues decoded decodes returnedFor arrivedBefore)
open Run (consideredPackets handlerInvocations polledPackets pipelineEvents Event)
open WorkerPipeline (acceptedPackets submittedPackets)

/-! ## What one step can do -/

section Steps

variable {calls : SocketCalls} {moments : Nat → Moment} {node next : Node} {event : Event}

/-- A step of the run, or a poll of its receiver. -/
inductive Transition (calls : SocketCalls) (moments : Nat → Moment) (node : Node) :
    Event → Node → Prop where
  | step {action event run} (steps : Run.perform node.run action = some (run, event))
    (quiet : ∀ packets, event ≠ .polled packets) :
    Transition calls moments node event { node with run }
  | polled {ready receiver queues packets run}
    (reported : PollCall.Distinct node.service.receiver.listeners.length
      { timeout := node.run.config.pollTimeout, ready })
    (polls : pollQueues calls moments node.service.receiver node.service.queues
      { timeout := node.run.config.pollTimeout, ready } = .ok (receiver, queues, packets))
    (steps : Run.perform node.run (.poll packets receiver.metrics) = some (run, .polled packets)) :
    Transition calls moments node (.polled packets)
      { run, service := { receiver, queues, returned := node.service.returned ++ packets } }

/-- Whatever an action does is one of the transitions. -/
theorem transition_of_perform {action : Action}
    (h : node.perform calls moments action = some (next, event)) :
    Transition calls moments node event next := by
  cases action with
  | step action =>
    have hstep (quiet : ∀ packets metrics, action ≠ .poll packets metrics)
        (h : ((Run.perform node.run action).bind fun result =>
          some ({ node with run := result.1 }, result.2)) = some (next, event)) :
        Transition calls moments node event next := by
      obtain ⟨⟨run, seen⟩, hperform, hend⟩ := Option.bind_eq_some_iff.mp h
      cases hend
      refine .step hperform fun packets heq => ?_
      subst heq
      have hemits := Run.emits_of_perform hperform
      cases action with
      | poll packets metrics => exact quiet packets metrics rfl
      | _ => cases hemits
    cases action with
    | poll packets metrics => cases h
    | _ => exact hstep (by simp) h
  | poll ready =>
    simp only [perform] at h
    split at h
    next hreports =>
      have hdistinct := Bool.and_eq_true_iff.mp hreports
      unfold poll at h
      dsimp only at h
      split at h
      next => cases h
      next receiver queues packets hpolls =>
        obtain ⟨⟨run, seen⟩, hperform, hend⟩ := Option.bind_eq_some_iff.mp h
        cases hend
        have hseen : seen = .polled packets := by
          simp only [Run.perform] at hperform
          split at hperform <;> cases hperform
          rfl
        subst hseen
        refine .polled ⟨of_decide_eq_true hdistinct.1, fun index hmem => ?_⟩ hpolls hperform
        exact of_decide_eq_true (List.all_eq_true.mp hdistinct.2 index hmem)
    next => cases h

end Steps

/-! ## The parts of a node -/

section Parts

variable {calls : SocketCalls} {moments : Nat → Moment} {config : RuntimeConfig}
  {receiver : EpollReceiver} {trace : List Event} {node : Node}

/-- The run that `start` begins is one of those that may begin. -/
theorem initial_of_start {run : Run.State}
    (h : Run.start config receiver true true = .ok run) :
    (Run.system config).initial run ∧ run.receiverMetrics = receiver.metrics := by
  obtain ⟨healthMonitor, hmonitor, hrest⟩ := bind_eq_ok.mp h
  obtain ⟨sampleMetrics, hsamples, hrest⟩ := bind_eq_ok.mp hrest
  obtain ⟨pipeline, hpipeline, hend⟩ := bind_eq_ok.mp hrest
  cases hsamples
  cases hend
  exact ⟨⟨healthMonitor, pipeline, receiver.metrics, hmonitor, hpipeline, rfl⟩, rfl⟩

/-- **The run of a node is a run.** -/
theorem reaches_run (run : (system calls moments config receiver).Reaches trace node) :
    (Run.system config).Reaches trace node.run := by
  refine run.invariant (fun trace node => (Run.system config).Reaches trace node.run) ?_ ?_
  · rintro _ ⟨run, hstart, rfl⟩
    exact .start (initial_of_start hstart).1
  · rintro trace node event next _ hrun ⟨action, hperform⟩
    cases transition_of_perform hperform with
    | step steps quiet => exact hrun.next ⟨_, steps⟩
    | polled reported polls steps => exact hrun.next ⟨_, steps⟩

/-- The metrics a run knows are those of its last poll. -/
theorem receiverMetrics_of_perform {state next : Run.State} {action : Run.Action} {event : Event}
    (h : Run.perform state action = some (next, event))
    (quiet : ∀ packets, event ≠ .polled packets) :
    next.receiverMetrics = state.receiverMetrics := by
  cases Run.transition_of_perform h with
  | polled packets receiverMetrics stands => exact absurd rfl (quiet packets)
  | _ => rfl

/-- What the run has seen of the receiver is what the receiver has done. -/
structure Polled (calls : SocketCalls) (moments : Nat → Moment) (receiver : EpollReceiver)
    (trace : List Event) (node : Node) : Prop where
  returned : node.service.returned = polledPackets trace
  metrics : node.run.receiverMetrics = node.service.receiver.metrics
  service : Service.Sound calls moments receiver node.service
  known : ∀ packet ∈ node.service.returned, packet.listener ∈ receiver.listeners
  batches : ∀ packets ∈ Run.polls trace,
    packets.length ≤ receiver.listeners.length * receiver.maxDatagramsPerListenerPerPoll

theorem polledPackets_quiet (quiet : ∀ packets, event ≠ .polled packets) :
    Run.polls [event] = [] := by
  cases event with
  | polled packets => exact absurd rfl (quiet packets)
  | _ => rfl

variable (named : ∀ address, (calls.inetNtop address).isSome) (distinct : receiver.listeners.Nodup)

include named distinct in
/-- **The receiver of a node**, in every reachable state. -/
theorem polled
    (run : (system calls moments config receiver).Reaches trace node) :
    Polled calls moments receiver trace node := by
  refine run.invariant (Polled calls moments receiver) ?_ ?_
  · rintro _ ⟨run, hstart, rfl⟩
    refine ⟨rfl, (initial_of_start hstart).2, .start, ?_, ?_⟩
    · intro packet hmem
      exact absurd hmem List.not_mem_nil
    · intro packets hmem
      exact absurd hmem List.not_mem_nil
  · rintro trace node event next _ ⟨hreturned, hmetrics, hservice, hknown, hbatches⟩
      ⟨action, hperform⟩
    have hpolls : Run.polls (trace ++ [event]) = Run.polls trace ++ Run.polls [event] :=
      List.filterMap_append
    cases transition_of_perform hperform with
    | step steps quiet =>
      rw [polledPackets_quiet quiet, List.append_nil] at hpolls
      refine ⟨?_, ?_, hservice, hknown, ?_⟩
      · rw [polledPackets, hpolls]
        exact hreturned
      · rw [← hmetrics]
        exact receiverMetrics_of_perform steps quiet
      · rw [hpolls]
        exact hbatches
    | @polled ready receiver' queues packets run reported polls steps =>
      rw [hservice.listeners] at reported
      have hpoll : node.service.poll calls moments
          { timeout := node.run.config.pollTimeout, ready } =
          { receiver := receiver', queues, returned := node.service.returned ++ packets } := by
        rw [Service.poll, polls]
      have hsound := (hservice.poll named distinct reported).1
      rw [hpoll] at hsound
      refine ⟨?_, ?_, hsound, ?_, ?_⟩
      · rw [Run.polledPackets_append, ← hreturned]
        exact congrArg _ (List.append_nil packets).symm
      · simp only [Run.perform] at steps
        split at steps <;> cases steps
        rfl
      · intro packet hmem
        rcases List.mem_append.mp hmem with hmem | hmem
        · exact hknown packet hmem
        · rw [← hservice.listeners]
          exact (EpollReceiver.pollQueues_returns polls).2 packet hmem
      · intro batch hmem
        rw [hpolls] at hmem
        rcases List.mem_append.mp hmem with hmem | hmem
        · exact hbatches batch hmem
        · rw [List.mem_singleton.mp hmem, ← hservice.limit]
          refine (EpollReceiver.pollQueues_returns polls).1.trans (Nat.mul_le_mul_right _ ?_)
          have hwithin : ready ⊆ List.range receiver.listeners.length := by
            intro index hready
            exact List.mem_range.mpr (reported.2 index hready)
          have hlength := (reported.1.subperm hwithin).length_le
          rwa [List.length_range] at hlength

end Parts

/-! ## What a sample is read from -/

/-- The sample of a datagram taken from a listener's queue, if it is a packet with a payload. -/
def sampleAt (calls : SocketCalls) (listener : Ipv4Endpoint)
    (popped : QueuedDatagram × BitVec 64) : Option SensorSample :=
  (decoded calls listener popped).bind sampleOf

/-- A sample is what a datagram says: the datagram is the encoding of the sample to the byte, it came
to the sample's listener from the sample's source, and was read at the sample's time. -/
structure ReadFrom (calls : SocketCalls) (listener : Ipv4Endpoint)
    (popped : QueuedDatagram × BitVec 64) (sample : SensorSample) : Prop where
  bytes : (do
    let payload ← encodeSensorPayload sample.payload
    encodePacket sample.payload.messageType sample.sequenceNumber sample.sourceTimestampNs
      payload) = .ok popped.1.bytes
  sender : calls.inetNtop popped.1.sender.address = some sample.source.address
  port : sample.source.port = popped.1.sender.port
  listener : sample.listener = listener
  clock : sample.receiveTimestampNs = popped.2

section Reading

variable {calls : SocketCalls} {listener : Ipv4Endpoint} {popped : QueuedDatagram × BitVec 64}
  {sample : SensorSample}

/-- **A datagram gives a sample exactly if it is that sample's encoding.** -/
theorem sampleAt_iff : sampleAt calls listener popped = some sample ↔
    ReadFrom calls listener popped sample := by
  constructor
  · intro h
    obtain ⟨packet, hdecoded, hsample⟩ := Option.bind_eq_some_iff.mp h
    obtain ⟨inner, hinner, hrest⟩ := Option.bind_eq_some_iff.mp hdecoded
    obtain ⟨address, haddress, hend⟩ := Option.bind_eq_some_iff.mp hrest
    cases hend
    obtain ⟨payload, hpayload, hmake⟩ := Option.map_eq_some_iff.mp hsample
    obtain ⟨result, hresult, hgives⟩ := Option.bind_eq_some_iff.mp hpayload
    subst hmake
    obtain ⟨htype, hvalid, hbytes⟩ := decodeSensorPayload_iff.mp ⟨result, hresult, hgives⟩
    refine ⟨?_, haddress, rfl, rfl, rfl⟩
    refine bind_eq_ok.mpr ⟨inner.payload, ?_, ?_⟩
    · rw [hbytes]
      exact encodeSensorPayload_eq hvalid
    · show encodePacket payload.messageType _ _ _ = _
      rw [htype]
      exact encodePacket_of_decodesTo (Option.bind_eq_some_iff.mp hinner)
  · rintro ⟨hbytes, hsender, hport, hlistener, hclock⟩
    obtain ⟨payload, hpayload, hpacket⟩ := bind_eq_ok.mp hbytes
    obtain ⟨result, hresult, hgives⟩ := decodesTo_of_encodePacket hpacket
    have hdecoded : decoded calls listener popped = some
        { packet :=
            { header := sealedHeader sample.payload.messageType sample.sequenceNumber
                sample.sourceTimestampNs payload
              payload }
          source := { address := sample.source.address, port := popped.1.sender.port }
          listener
          receiveTimestampNs := popped.2 } := by
      refine Option.bind_eq_some_iff.mpr
        ⟨_, Option.bind_eq_some_iff.mpr ⟨result, hresult, hgives⟩, ?_⟩
      exact Option.bind_eq_some_iff.mpr ⟨_, hsender, rfl⟩
    refine Option.bind_eq_some_iff.mpr ⟨_, hdecoded, sampleOf_eq_some ?_⟩
    exact ⟨rfl, hpayload, rfl, rfl, hclock, by rw [← hport], hlistener⟩

/-- A sample names the listener of its packet. -/
theorem listener_of_sampleOf {packet : ReceivedPacket} (h : sampleOf packet = some sample) :
    sample.listener = packet.listener := by
  obtain ⟨payload, _, rfl⟩ := Option.map_eq_some_iff.mp h
  rfl

/-- The samples of a listener are those of the packets of that listener. -/
theorem filter_sampleOf (packets : List ReceivedPacket) :
    (packets.filterMap sampleOf).filter (fun sample => sample.listener = listener) =
      (returnedFor listener packets).filterMap sampleOf := by
  rw [returnedFor, List.filter_filterMap, List.filterMap_filter]
  refine List.filterMap_congr fun packet _ => ?_
  cases hsample : sampleOf packet with
  | none => simp
  | some sample =>
    have hlistener := listener_of_sampleOf hsample
    by_cases h : packet.listener = listener <;> simp [hlistener, h]

/-- Some of the values a list has are the values of some of its entries. -/
theorem exists_read {α β : Type} {f : α → Option β} {entries : List α} {values : List β}
    (h : values.Sublist (entries.filterMap f)) :
    ∃ read, read.Sublist entries ∧
      List.Forall₂ (fun entry value => f entry = some value) read values := by
  obtain ⟨read, hread, hvalues⟩ := List.sublist_filterMap_iff.mp h
  subst hvalues
  refine ⟨read.filter fun entry => (f entry).isSome, List.filter_sublist.trans hread, ?_⟩
  clear hread h
  induction read with
  | nil => exact .nil
  | cons entry read ih =>
    cases hvalue : f entry <;> simpa [hvalue] using ih

end Reading

/-- The samples a run has handed out for a listener. -/
def handedFor (listener : Ipv4Endpoint) (trace : List Event) : List SensorSample :=
  (handlerInvocations trace).filter fun sample => sample.listener = listener

/-! ## Seven datagrams -/

/-- A node that has collected its metrics returns. -/
theorem reaches_returned {calls : SocketCalls} {moments : Nat → Moment} {config : RuntimeConfig}
    {receiver : EpollReceiver} {trace : List Event} {node : Node} {timestamp : BitVec 64}
    {metrics : WorkerPipelineMetrics}
    (run : (system calls moments config receiver).Reaches trace node)
    (stands : node.run.stage = .collecting timestamp metrics) :
    (system calls moments config receiver).Reaches
      (trace ++ [.returned (Run.summarise node.run timestamp metrics)])
      { node with run := { node.run with stage := .returned } } := by
  refine run.next ⟨.step .summarise, ?_⟩
  simp only [perform, Run.perform, stands]
  rfl

/-- All that arrives is there before the first receive call. -/
def arriving (arrivals : List (Nat × QueuedDatagram)) (call : Nat) : Moment :=
  if call = 0 then { arrivals, clock := 7 } else {}

/-- The datagram of a camera frame of 1920 by 1080 pixels. -/
def frame (sequenceNumber : BitVec 64) : QueuedDatagram where
  bytes := ((encodePacket .kCameraMeta sequenceNumber 0
    [0, 0, 0, 0, 0, 0, 0, 1, 0, 0, 7, 0x80, 0, 0, 4, 0x38, 0, 0, 0x1f, 0x40, 0, 0, 0, 0]).toOption).getD
      []
  sender := { address := 0x7f000001, port := 40000 }
  fits := by
    rw [encodePacket_eq _ _ (by decide) (by decide)]
    show (layout _ _).length ≤ _
    rw [length_layout]
    decide

/-- At the first listener three frames, a byte that is no packet, a packet without a payload, and one
frame more; at the second listener one frame. -/
def sevenDatagrams : List (Nat × QueuedDatagram) :=
  [(0, frame 1), (0, { bytes := [0], sender := (frame 1).sender, fits := by decide }), (0, frame 2),
    (0, frame 3), (0, EpollReceiver.emptyImu), (0, frame 4), (1, frame 5)]

/-- Two listeners, each of which is read until nothing is left. -/
def wideReceiver : EpollReceiver :=
  { EpollReceiver.twoListeners with maxDatagramsPerListenerPerPoll := 64 }

def singleConfig : RuntimeConfig := { pipeline := { workerCount := 1, queueCapacity := 1 } }

/-- The I/O thread has a packet accepted. -/
def submitActions : List Action :=
  [.step (.askStop false), .step .observePacket, .step .trySubmit, .step .countPacket]

/-- The worker takes a packet and hands out its sample. -/
def handActions : List Action :=
  [.step (.acquire 0), .step (.advance 0 false), .step (.advance 0 false),
    .step (.advance 0 false), .step (.advance 0 false), .step (.advance 0 false),
    .step (.finish 0)]

/-- The run is told to stop, and stops. -/
def stopActions : List Action :=
  [.step (.askStop true), .step (.readClock 9), .step .lockLifecycle, .step .requestStop,
    .step (.acquire 0), .step .returnStop]

/-- The first frame is taken by the worker, the second waits, and the third is refused. The handler
throws on the first and gets the second; the empty packet is rejected; and then the stop predicate
leaves the last two frames where they are. -/
def sevenActions : List Action :=
  List.flatten
    [[.step (.askStop false), .poll [0, 1]], submitActions,
      [.step (.acquire 0), .step (.advance 0 false), .step (.advance 0 false),
        .step (.advance 0 false), .step (.advance 0 false)],
      submitActions,
      [.step (.askStop false), .step .observePacket, .step .trySubmit, .step .observeQueueDrop,
        .step .countPacket, .step (.advance 0 true), .step (.finish 0)],
      handActions, submitActions,
      [.step (.acquire 0), .step (.advance 0 false), .step (.advance 0 false),
        .step (.observeRejection 0), .step (.finish 0), .step (.askStop true)],
      stopActions]

/-- A run of the node that hands out two samples, and leaves out a datagram in every other way: up to
where it returns. -/
theorem exists_sevenRun : ∃ trace node metrics,
    (system EpollReceiver.dottedCalls (arriving sevenDatagrams) singleConfig wideReceiver).Reaches
      trace node ∧
    (handlerInvocations trace).map (·.sequenceNumber) = [1, 2] ∧
    (handedFor { address := "127.0.0.1", port := 9000 } trace).map (·.sequenceNumber) = [1, 2] ∧
    (Run.handlerFailures trace).map (·.packet.header.sequenceNumber) = [1] ∧
    (submittedPackets .kQueueFull (pipelineEvents trace)).map (·.packet.header.sequenceNumber) =
      [3] ∧
    node.service.queues.poppedCount 2 = 7 ∧
    node.run.receiverMetrics.packetsAccepted = 6 ∧ node.run.receiverMetrics.packetsRejected = 1 ∧
    node.run.packetsReceived = 4 ∧ node.run.sampleMetrics.payloadsRejected = 1 ∧
    node.run.stage = .collecting 9 metrics := by
  let metrics : WorkerPipelineMetrics :=
    { packetsSubmitted := 3, packetsProcessed := 2, packetsDroppedQueueFull := 1,
      handlerFailures := 1, queueHighWatermark := 1 }
  have hschedule : ((performAll (perform EpollReceiver.dottedCalls (arriving sevenDatagrams))
      { run := Run.startState singleConfig, service := { receiver := wideReceiver } }
      sevenActions).map fun result =>
        ([(handlerInvocations result.2).map (·.sequenceNumber),
          (handedFor { address := "127.0.0.1", port := 9000 } result.2).map (·.sequenceNumber),
          (Run.handlerFailures result.2).map (·.packet.header.sequenceNumber),
          (submittedPackets .kQueueFull (pipelineEvents result.2)).map
            (·.packet.header.sequenceNumber),
          [result.1.run.receiverMetrics.packetsAccepted,
            result.1.run.receiverMetrics.packetsRejected, result.1.run.packetsReceived,
            result.1.run.sampleMetrics.payloadsRejected]],
          result.1.service.queues.poppedCount 2, result.1.run.stage)) =
      some ([[1, 2], [1, 2], [1], [3], [6, 1, 4, 1]], 7, .collecting 9 metrics) := by
    decide +kernel
  obtain ⟨⟨node, trace⟩, hactions, hresult⟩ := Option.map_eq_some_iff.mp hschedule
  simp only [Prod.mk.injEq, List.cons.injEq, and_true] at hresult
  obtain ⟨⟨hhanded, hlistener, hfailures, hrefused, haccepted, hrejected, hreceived, hpayloads⟩,
    hpopped, hstage⟩ := hresult
  have hstart : (system EpollReceiver.dottedCalls (arriving sevenDatagrams) singleConfig
      wideReceiver).initial
      { run := Run.startState singleConfig, service := { receiver := wideReceiver } } :=
    ⟨_, rfl, rfl⟩
  have hrun := (System.Reaches.start hstart).performAll (fun _ action _ _ h => ⟨action, h⟩) _
    hactions
  exact ⟨trace, node, metrics, hrun, hhanded, hlistener, hfailures, hrefused, hpopped, haccepted,
    hrejected, hreceived, hpayloads, hstage⟩

/-! ## Every sample is a datagram -/

section Samples

variable {calls : SocketCalls} {moments : Nat → Moment} {config : RuntimeConfig}
  {receiver : EpollReceiver} {trace : List Event} {node : Node} {index : Nat}
  {listener : Ipv4Endpoint}

/-- What the sample handler has been given, against the datagrams of the sockets. -/
structure SamplesGenuine (calls : SocketCalls) (moments : Nat → Moment) (receiver : EpollReceiver)
    (trace : List Event) (node : Node) : Prop where
  /-- A socket gives what arrived, in order. -/
  arrived : ∀ index, (node.service.queues.popped index).map (·.1) <+:
    arrivedBefore moments node.service.queues.receives index
  known : ∀ sample ∈ handlerInvocations trace, sample.listener ∈ receiver.listeners
  /-- The samples of a listener are read from as many of its datagrams, each from one. -/
  once : ∀ index listener, receiver.listeners[index]? = some listener → ∃ read samples,
    List.Sublist read (node.service.queues.popped index) ∧
    List.Forall₂ (ReadFrom calls listener) read samples ∧
    samples.Perm (handedFor listener trace)

/-- What is accepted was returned by a poll, in order. -/
theorem accepted_polled (run : (system calls moments config receiver).Reaches trace node) :
    List.Sublist (acceptedPackets (pipelineEvents trace)) (polledPackets trace) :=
  calc List.Sublist (acceptedPackets (pipelineEvents trace))
        (acceptedPackets (pipelineEvents trace) ++ node.run.stage.pending) :=
        List.sublist_append_left _ _
    List.Sublist _ (consideredPackets trace) := Run.accepted_sublist (reaches_run run)
    List.Sublist _ (consideredPackets trace ++ node.run.stage.upcoming) :=
        List.sublist_append_left _ _
    List.Sublist _ (polledPackets trace) := Run.considered_sublist (reaches_run run)

/-- The samples of a listener's datagrams are those of its packets. -/
theorem Polled.filterMap_sampleAt (h : Polled calls moments receiver trace node)
    (known : receiver.listeners[index]? = some listener) :
    (node.service.queues.popped index).filterMap (sampleAt calls listener) =
      ((polledPackets trace).filterMap sampleOf).filter fun sample =>
        sample.listener = listener := by
  rw [filter_sampleOf, ← h.returned, h.service.sound.inOrder index listener known,
    List.filterMap_filterMap]
  rfl

/-- Reading gives each sample from its datagram. -/
theorem readFrom_of_sublist {popped : List (QueuedDatagram × BitVec 64)}
    {samples : List SensorSample}
    (h : samples.Sublist (popped.filterMap (sampleAt calls listener))) :
    ∃ read, read.Sublist popped ∧ List.Forall₂ (ReadFrom calls listener) read samples := by
  obtain ⟨read, hread, hsamples⟩ := exists_read h
  exact ⟨read, hread, hsamples.imp fun _ _ => sampleAt_iff.mp⟩

/-- The samples handed out are those of packets that polls returned, each of one. -/
theorem handed_polled (run : (system calls moments config receiver).Reaches trace node) :
    List.Subperm (handlerInvocations trace) ((polledPackets trace).filterMap sampleOf) := by
  have haccepted : List.Subperm ((acceptedPackets (pipelineEvents trace)).filterMap sampleOf)
      ((polledPackets trace).filterMap sampleOf) :=
    ((accepted_polled run).filterMap sampleOf).subperm
  exact (Multiset.coe_le.mp (Run.handlerInvocations_le (reaches_run run))).trans haccepted

/-- A sample that is handed out names one of the listeners. -/
theorem known_of_handed (polled : Polled calls moments receiver trace node)
    (run : (system calls moments config receiver).Reaches trace node) {sample : SensorSample}
    (handed : sample ∈ handlerInvocations trace) : sample.listener ∈ receiver.listeners := by
  obtain ⟨packet, hpacket, hsample⟩ := List.mem_filterMap.mp ((handed_polled run).subset handed)
  rw [listener_of_sampleOf hsample]
  rw [← polled.returned] at hpacket
  exact polled.known packet hpacket

/-- A sample that is handed out is read from a datagram. -/
theorem exists_readFrom (polled : Polled calls moments receiver trace node)
    (run : (system calls moments config receiver).Reaches trace node) {sample : SensorSample}
    (handed : sample ∈ handlerInvocations trace) :
    ∃ index popped, popped ∈ node.service.queues.popped index ∧
      ReadFrom calls sample.listener popped sample := by
  obtain ⟨index, hindex, hlistener⟩ := List.getElem_of_mem (known_of_handed polled run handed)
  have hknown : receiver.listeners[index]? = some sample.listener := by
    rw [← hlistener]
    exact List.getElem?_eq_getElem hindex
  have hmem : sample ∈ ((polledPackets trace).filterMap sampleOf).filter fun other =>
      other.listener = sample.listener :=
    List.mem_filter.mpr ⟨(handed_polled run).subset handed, decide_eq_true rfl⟩
  rw [← polled.filterMap_sampleAt hknown] at hmem
  obtain ⟨popped, hpopped, hsample⟩ := List.mem_filterMap.mp hmem
  exact ⟨index, popped, hpopped, sampleAt_iff.mp hsample⟩

/-- **Every sample the handler is given is a datagram that arrived**, read back to the byte, and no
datagram is read twice: in every reachable state of the node, with any number of workers. -/
theorem samples_genuine (named : ∀ address, (calls.inetNtop address).isSome)
    (distinct : receiver.listeners.Nodup)
    (run : (system calls moments config receiver).Reaches trace node) :
    SamplesGenuine calls moments receiver trace node := by
  have hpolled := polled named distinct run
  constructor
  · intro index
    rw [hpolled.service.sound.kept]
    exact List.prefix_append _ _
  · intro sample hmem
    exact known_of_handed hpolled run hmem
  · intro index listener known
    obtain ⟨samples, hperm, hsublist⟩ :=
      (handed_polled run).filter fun sample => sample.listener = listener
    rw [← hpolled.filterMap_sampleAt known] at hsublist
    obtain ⟨read, hread, hsamples⟩ := readFrom_of_sublist hsublist
    exact ⟨read, samples, hread, hsamples, hperm⟩

/-- Two samples are handed out of seven datagrams, both read back in what arrived at the first
listener. -/
theorem samples_genuine_sevenDatagrams : ∃ trace node,
    (system EpollReceiver.dottedCalls (arriving sevenDatagrams) singleConfig wideReceiver).Reaches
      trace node ∧
    (handlerInvocations trace).map (·.sequenceNumber) = [1, 2] ∧
    node.service.queues.poppedCount 2 = 7 ∧
    SamplesGenuine EpollReceiver.dottedCalls (arriving sevenDatagrams) wideReceiver trace node := by
  obtain ⟨trace, node, metrics, hrun, hhanded, -, -, -, hpopped, -⟩ := exists_sevenRun
  exact ⟨trace, node, hrun, hhanded, hpopped,
    samples_genuine (fun _ => rfl) (by decide) hrun⟩

/-- **A single worker keeps the order of every socket**: the samples of a listener are handed out in
the order in which their datagrams arrived. -/
theorem samples_inOrder (named : ∀ address, (calls.inetNtop address).isSome)
    (distinct : receiver.listeners.Nodup)
    (single : config.pipeline.workerCount = 1)
    (run : (system calls moments config receiver).Reaches trace node)
    (known : receiver.listeners[index]? = some listener) :
    ∃ read, List.Sublist read (node.service.queues.popped index) ∧
      List.Forall₂ (ReadFrom calls listener) read (handedFor listener trace) := by
  have hpolled := polled named distinct run
  have hhanded :
      List.Sublist (handlerInvocations trace) ((polledPackets trace).filterMap sampleOf) :=
    (Run.handlerInvocations_prefix single (reaches_run run)).sublist.trans
      ((accepted_polled run).filterMap sampleOf)
  have hsublist := hhanded.filter fun sample => sample.listener = listener
  rw [← hpolled.filterMap_sampleAt known] at hsublist
  exact readFrom_of_sublist hsublist

/-- The handler throws on the first sample, and the queue has no room for the third packet. -/
theorem samples_inOrder_sevenDatagrams : ∃ trace node read,
    (system EpollReceiver.dottedCalls (arriving sevenDatagrams) singleConfig wideReceiver).Reaches
      trace node ∧
    (handedFor { address := "127.0.0.1", port := 9000 } trace).map (·.sequenceNumber) = [1, 2] ∧
    (Run.handlerFailures trace).map (·.packet.header.sequenceNumber) = [1] ∧
    (submittedPackets .kQueueFull (pipelineEvents trace)).map (·.packet.header.sequenceNumber) =
      [3] ∧
    List.Sublist read (node.service.queues.popped 0) ∧
    List.Forall₂ (ReadFrom EpollReceiver.dottedCalls { address := "127.0.0.1", port := 9000 })
      read (handedFor { address := "127.0.0.1", port := 9000 } trace) := by
  obtain ⟨trace, node, metrics, hrun, -, hlistener, hfailures, hrefused, -⟩ := exists_sevenRun
  obtain ⟨read, hread, hsamples⟩ :=
    @samples_inOrder _ _ _ _ _ _ 0 _ (fun _ => rfl) (by decide) rfl hrun rfl
  exact ⟨trace, node, read, hrun, hlistener, hfailures, hrefused, hread, hsamples⟩

end Samples

/-! ## Every datagram has an account -/

section Accounts

variable {calls : SocketCalls} {moments : Nat → Moment} {config : RuntimeConfig}
  {receiver : EpollReceiver} {trace : List Event} {node : Node} {state : Run.State}
  {summary : RuntimeSummary}

/-- A packet of a known listener is counted at one index. -/
theorem sum_returnedAt {listeners : List Ipv4Endpoint} (distinct : listeners.Nodup)
    {returned : List ReceivedPacket} (known : ∀ packet ∈ returned, packet.listener ∈ listeners) :
    ∑ index ∈ Finset.range listeners.length,
      (returned.filter fun packet => listeners[index]? = some packet.listener).length =
        returned.length := by
  induction returned with
  | nil => exact Finset.sum_const_zero
  | cons packet returned ih =>
    have hrest := ih fun packet hmem => known packet (List.mem_cons_of_mem _ hmem)
    obtain ⟨place, hplace, hlistener⟩ := List.getElem_of_mem (known packet List.mem_cons_self)
    have hone (index : Nat) (hindex : index ∈ Finset.range listeners.length) :
        ((packet :: returned).filter fun packet =>
          listeners[index]? = some packet.listener).length =
        (returned.filter fun packet => listeners[index]? = some packet.listener).length +
          if index = place then 1 else 0 := by
      have hat : listeners[index]? = some packet.listener ↔ index = place := by
        rw [← hlistener, ← List.getElem?_eq_getElem hplace]
        exact (List.getElem?_inj (Finset.mem_range.mp hindex) distinct)
      rw [List.filter_cons]
      by_cases h : index = place
      · rw [if_pos (decide_eq_true (hat.mpr h)), if_pos h, List.length_cons]
      · rw [if_neg (fun hsame => h (hat.mp (of_decide_eq_true hsame))), if_neg h, Nat.add_zero]
    rw [Finset.sum_congr rfl hone, Finset.sum_add_distrib, hrest, Finset.sum_ite_eq',
      if_pos (Finset.mem_range.mpr hplace), List.length_cons]

/-- A receiver returns as many packets as the datagrams it took have. -/
theorem Polled.length_returned (h : Polled calls moments receiver trace node)
    (named : ∀ address, (calls.inetNtop address).isSome) (distinct : receiver.listeners.Nodup) :
    node.service.returned.length = ∑ index ∈ Finset.range receiver.listeners.length,
      (node.service.queues.popped index).countP fun popped => decodes popped.1 := by
  rw [← sum_returnedAt distinct h.known]
  refine Finset.sum_congr rfl fun index hindex => ?_
  obtain ⟨listener, hlistener⟩ : ∃ listener, receiver.listeners[index]? = some listener :=
    ⟨_, List.getElem?_eq_getElem (Finset.mem_range.mp hindex)⟩
  have hreturned : (node.service.returned.filter fun packet =>
      receiver.listeners[index]? = some packet.listener) =
      returnedFor listener node.service.returned := by
    refine List.filter_congr fun packet _ => ?_
    rw [hlistener]
    exact decide_eq_decide.mpr (Option.some_inj.trans eq_comm)
  rw [hreturned, h.service.sound.inOrder index _ hlistener, List.length_filterMap_eq_countP]
  refine List.countP_congr fun popped _ => ?_
  rw [EpollReceiver.isSome_decoded named]

/-- A datagram that was taken has a packet or has none. -/
theorem Polled.poppedCount_eq (h : Polled calls moments receiver trace node)
    (named : ∀ address, (calls.inetNtop address).isSome) (distinct : receiver.listeners.Nodup) :
    node.service.queues.poppedCount receiver.listeners.length = node.service.returned.length +
      ∑ index ∈ Finset.range receiver.listeners.length,
        (node.service.queues.popped index).countP fun popped => !decodes popped.1 := by
  rw [h.length_returned named distinct, ← Finset.sum_add_distrib, SocketQueues.poppedCount]
  refine Finset.sum_congr rfl fun index _ => ?_
  have hsplit := List.length_eq_countP_add_countP
    (fun popped : QueuedDatagram × BitVec 64 => decodes popped.1)
    (l := node.service.queues.popped index)
  simpa only [Bool.not_eq_true, Bool.decide_eq_false] using hsplit

/-- The counters of a receiver in its first run. Fewer than `2 ^ 64` datagrams were taken, so none of
them has wrapped. -/
theorem Polled.counts (h : Polled calls moments receiver trace node)
    (named : ∀ address, (calls.inetNtop address).isSome) (distinct : receiver.listeners.Nodup)
    (fresh : receiver.metrics = {})
    (fewer : node.service.queues.poppedCount receiver.listeners.length < 2 ^ 64) :
    node.run.receiverMetrics.datagramsReceived.toNat =
        node.service.queues.poppedCount receiver.listeners.length ∧
      node.run.receiverMetrics.packetsAccepted.toNat = (polledPackets trace).length ∧
      node.run.receiverMetrics.packetsRejected.toNat =
        ∑ index ∈ Finset.range receiver.listeners.length,
          (node.service.queues.popped index).countP fun popped => !decodes popped.1 := by
  have hcounted := h.service.sound
  rw [fresh] at hcounted
  obtain ⟨hreceived, haccepted, houtcomes⟩ := hcounted.of_first
  have htaken := h.poppedCount_eq named distinct
  generalize (∑ index ∈ Finset.range receiver.listeners.length,
    (node.service.queues.popped index).countP fun popped => !decodes popped.1) = undecodable
    at htaken ⊢
  have hrejected : node.service.receiver.metrics.packetsRejected = BitVec.ofNat 64 undecodable := by
    rw [hreceived, haccepted, htaken, BitVec.ofNat_add] at houtcomes
    exact ((BitVec.add_right_inj _).mp houtcomes).symm
  have hexact {count : Nat}
      (hle : count ≤ node.service.queues.poppedCount receiver.listeners.length) :
      (BitVec.ofNat 64 count).toNat = count :=
    Nat.mod_eq_of_lt (Nat.lt_of_le_of_lt hle fewer)
  rw [h.metrics, hreceived, haccepted, hrejected, ← h.returned]
  exact ⟨hexact (Nat.le_refl _), hexact (by omega), hexact (by omega)⟩

/-- The packets of a summary are those that were considered. -/
theorem packetsReceived_eq {next : Run.State} (run : (Run.system config).Reaches trace state)
    (step : Run.Transition state (.returned summary) next) :
    summary.packetsReceived = BitVec.ofNat 64 (consideredPackets trace).length := by
  have hconsidered := (Run.reaches_considered run).1
  cases step with
  | returned timestamp metrics stands =>
    have huncounted : state.stage.uncounted = 0 := by rw [stands]; rfl
    show state.packetsReceived = _
    rw [hconsidered.received, hconsidered.counted, huncounted, Nat.add_zero]

/-- The packets that were refused. -/
def refusedPackets (trace : List Event) : List ReceivedPacket :=
  submittedPackets .kQueueFull (pipelineEvents trace)

/-- What became of the datagrams of a run that has returned. What does not decode was rejected. The
packets of the others were accepted, refused by a full queue, or abandoned by the check inside the
`for` loop; and the handler was given the samples of those that were accepted, all but the ones whose
payload does not decode. -/
structure SamplesAccounted (calls : SocketCalls) (receiver : EpollReceiver) (trace : List Event)
    (summary : RuntimeSummary) (node : Node) (abandoned : List ReceivedPacket) : Prop where
  packets : ∀ index listener, receiver.listeners[index]? = some listener →
    ((node.service.queues.popped index).filterMap (decoded calls listener) :
        Multiset ReceivedPacket) =
      returnedFor listener
        (acceptedPackets (pipelineEvents trace) ++ (refusedPackets trace ++ abandoned))
  handed : (handlerInvocations trace : Multiset SensorSample) =
    (acceptedPackets (pipelineEvents trace)).filterMap sampleOf
  samples : ∀ index listener, receiver.listeners[index]? = some listener →
    ((node.service.queues.popped index).filterMap (sampleAt calls listener) :
        Multiset SensorSample) =
      handedFor listener trace +
        (((refusedPackets trace ++ abandoned).filterMap sampleOf).filter fun sample =>
          sample.listener = listener)
  datagrams : summary.receiverMetrics.datagramsReceived.toNat =
    node.service.queues.poppedCount receiver.listeners.length
  undecodable : summary.receiverMetrics.packetsRejected.toNat =
    ∑ index ∈ Finset.range receiver.listeners.length,
      (node.service.queues.popped index).countP fun popped => !decodes popped.1
  rejected : summary.receiverMetrics.datagramsReceived.toNat =
    summary.receiverMetrics.packetsRejected.toNat + summary.receiverMetrics.packetsAccepted.toNat
  received : summary.receiverMetrics.packetsAccepted.toNat =
    summary.packetsReceived.toNat + abandoned.length
  submitted : summary.pipelineMetrics.packetsSubmitted.toNat =
    (acceptedPackets (pipelineEvents trace)).length
  refused : summary.pipelineMetrics.packetsDroppedQueueFull.toNat = (refusedPackets trace).length
  samplesDecoded : summary.sampleMetrics.samplesDecoded.toNat = (handlerInvocations trace).length
  payloadsRejected : summary.sampleMetrics.payloadsRejected.toNat =
    (acceptedPackets (pipelineEvents trace)).countP fun packet => !payloadDecodes packet
  /-- What was abandoned was returned by a poll and never considered. -/
  left : (polledPackets trace).Perm (consideredPackets trace ++ abandoned)
  /-- A stop predicate that stays with its yes costs no more than the rest of the last batch. -/
  latched : Run.Latched trace →
    polledPackets trace = consideredPackets trace ++ abandoned ∧
    abandoned <:+ (Run.polls trace).getLastD [] ∧
    abandoned.length ≤ receiver.listeners.length * receiver.maxDatagramsPerListenerPerPoll

/-- What the I/O thread has left out when it is past its loop. -/
theorem exists_abandoned (run : (Run.system config).Reaches trace state)
    (past : state.stage.upcoming = []) :
    ∃ abandoned, (polledPackets trace).Perm (consideredPackets trace ++ abandoned) ∧
      (Run.Latched trace → polledPackets trace = consideredPackets trace ++ abandoned ∧
        abandoned <:+ (Run.polls trace).getLastD []) := by
  have hsublist := Run.considered_sublist run
  rw [past, List.append_nil] at hsublist
  by_cases hlatched : Run.Latched trace
  · obtain ⟨hearlier, horder⟩ := Run.attentive run hlatched
    rw [past, List.append_nil] at horder
    have hprefix : consideredPackets trace <+: polledPackets trace := by
      rcases horder with hall | hover
      · rw [hall]
      · exact hover.1
    obtain ⟨abandoned, habandoned⟩ := hprefix
    refine ⟨abandoned, List.Perm.of_eq habandoned.symm, fun _ => ⟨habandoned.symm, ?_⟩⟩
    obtain ⟨rest, hrest⟩ := hearlier
    rcases List.eq_nil_or_concat' (Run.polls trace) with hnone | ⟨batches, last, hpolls⟩
    · have hnothing : consideredPackets trace ++ abandoned = [] := by
        rw [habandoned, polledPackets, hnone]
        rfl
      rw [(List.append_eq_nil_iff.mp hnothing).2]
      exact List.nil_suffix
    · rw [hpolls, List.dropLast_concat] at hrest
      have hlast : rest ++ abandoned = last := by
        rw [polledPackets, hpolls, List.flatten_concat, ← hrest, List.append_assoc] at habandoned
        exact List.append_cancel_left habandoned
      rw [hpolls, List.getLastD_concat]
      exact ⟨rest, hlast⟩
  · obtain ⟨abandoned, hperm⟩ := hsublist.exists_perm_append
    exact ⟨abandoned, hperm, fun h => absurd h hlatched⟩

/-- Every packet that a poll returned was accepted, refused or abandoned. -/
theorem polled_split (run : (Run.system config).Reaches trace state)
    (pending : state.stage.pending = []) {abandoned : List ReceivedPacket}
    (left : (polledPackets trace).Perm (consideredPackets trace ++ abandoned)) :
    (polledPackets trace).Perm
      (acceptedPackets (pipelineEvents trace) ++ (refusedPackets trace ++ abandoned)) := by
  have hsubmitted := (Run.reaches_considered run).1.submitted
  rw [pending, Multiset.coe_nil, add_zero, Multiset.coe_add] at hsubmitted
  have hconsidered : (consideredPackets trace).Perm
      (acceptedPackets (pipelineEvents trace) ++ refusedPackets trace) :=
    Multiset.coe_eq_coe.mp hsubmitted
  rw [← List.append_assoc]
  exact left.trans (hconsidered.append_right abandoned)

/-- The samples of the packets that polls returned are those that the handler got, and those of the
packets that were refused or abandoned. -/
theorem samples_split {abandoned : List ReceivedPacket}
    (handed : (handlerInvocations trace : Multiset SensorSample) =
      (acceptedPackets (pipelineEvents trace)).filterMap sampleOf)
    (split : (polledPackets trace).Perm
      (acceptedPackets (pipelineEvents trace) ++ (refusedPackets trace ++ abandoned))) :
    ((polledPackets trace).filterMap sampleOf).Perm
      (handlerInvocations trace ++ (refusedPackets trace ++ abandoned).filterMap sampleOf) := by
  have hsamples := split.filterMap sampleOf
  rw [List.filterMap_append] at hsamples
  exact hsamples.trans ((Multiset.coe_eq_coe.mp handed).symm.append_right _)

/-- **When `run` returns, every datagram that was taken from a socket has an account.** Fewer than
`2 ^ 64` of them were. -/
theorem samples_accounted (named : ∀ address, (calls.inetNtop address).isSome)
    (distinct : receiver.listeners.Nodup) (fresh : receiver.metrics = {})
    (run : (system calls moments config receiver).Reaches (trace ++ [.returned summary]) node)
    (fewer : node.service.queues.poppedCount receiver.listeners.length < 2 ^ 64) :
    ∃ abandoned, SamplesAccounted calls receiver trace summary node abandoned := by
  obtain ⟨earlier, hearlier, action, hperform⟩ := run.last
  have hpolled := polled named distinct hearlier
  have hrun := reaches_run hearlier
  cases transition_of_perform hperform with
  | step steps quiet =>
    cases Run.transition_of_perform steps with
    | returned timestamp metrics stands =>
      change earlier.service.queues.poppedCount receiver.listeners.length < 2 ^ 64 at fewer
      obtain ⟨hclosed, hsettled, rfl⟩ := Run.closed hrun stands
      obtain ⟨hconsidered, hguarded⟩ := Run.reaches_considered hrun
      obtain ⟨abandoned, hperm, hlatched⟩ := exists_abandoned hrun (by rw [stands]; rfl)
      have hexited := (hguarded.collected _ _ stands).1
      have haccounted := (WorkerPipeline.reaches_invariant (Run.reaches_pipeline hrun)).1
      have hpackets := packetsReceived_eq hrun (Run.transition_of_perform steps)
      have hsplit := polled_split hrun (by rw [stands]; rfl) hperm
      have hhanded := Run.handlerInvocations_eq hrun hexited hclosed.accepted
      obtain ⟨hdecoded, hpayloads⟩ := Run.sampleMetrics_closed hrun hclosed hsettled
      obtain ⟨hdatagrams, haccepted, hrejected⟩ := hpolled.counts named distinct fresh fewer
      have htaken := hpolled.poppedCount_eq named distinct
      rw [hpolled.returned, ← hrejected] at htaken
      -- no count of packets is more than that of the datagrams, so no counter has wrapped
      have hexact {count : Nat} (h : count ≤ (polledPackets trace).length) :
          (BitVec.ofNat 64 count).toNat = count :=
        Nat.mod_eq_of_lt (Nat.lt_of_le_of_lt (h.trans (by omega)) fewer)
      have hleft := hperm.length_eq
      have hlengths := hsplit.length_eq
      rw [List.length_append] at hleft
      rw [List.length_append, List.length_append] at hlengths
      have hhandedLength : (handlerInvocations trace).length ≤
          (acceptedPackets (pipelineEvents trace)).length := by
        rw [(Multiset.coe_eq_coe.mp hhanded).length_eq]
        exact List.length_filterMap_le _ _
      have hpayloadsLength : (acceptedPackets (pipelineEvents trace)).countP
          (fun packet => !payloadDecodes packet) ≤
          (acceptedPackets (pipelineEvents trace)).length := List.countP_le_length
      refine ⟨abandoned, ?_, hhanded, ?_, ?_, ?_, ?_, ?_, ?_, ?_, ?_, ?_, hperm, ?_⟩
      · intro index listener known
        rw [← hpolled.service.sound.inOrder index listener known, hpolled.returned]
        exact Multiset.coe_eq_coe.mpr (hsplit.filter _)
      · intro index listener known
        rw [hpolled.filterMap_sampleAt known, Multiset.coe_add]
        refine Multiset.coe_eq_coe.mpr ?_
        have hlistener := (samples_split hhanded hsplit).filter fun sample =>
          sample.listener = listener
        rw [List.filter_append] at hlistener
        exact hlistener
      · exact hdatagrams
      · exact hrejected
      · show earlier.run.receiverMetrics.datagramsReceived.toNat =
          earlier.run.receiverMetrics.packetsRejected.toNat +
            earlier.run.receiverMetrics.packetsAccepted.toNat
        rw [hdatagrams, haccepted, htaken, Nat.add_comm]
      · show earlier.run.receiverMetrics.packetsAccepted.toNat =
          earlier.run.packetsReceived.toNat + abandoned.length
        have hreceived : earlier.run.packetsReceived =
            BitVec.ofNat 64 (consideredPackets trace).length := hpackets
        rw [haccepted, hreceived, hexact (by omega), hleft]
      · show earlier.run.pipeline.metrics.packetsSubmitted.toNat = _
        rw [haccounted.submitted, hexact (by omega)]
      · show earlier.run.pipeline.metrics.packetsDroppedQueueFull.toNat = _
        rw [haccounted.dropped]
        exact hexact (show (refusedPackets trace).length ≤ _ by omega)
      · show earlier.run.sampleMetrics.samplesDecoded.toNat = _
        rw [hdecoded, hexact (by omega)]
      · show earlier.run.sampleMetrics.payloadsRejected.toNat = _
        rw [hpayloads, hexact (by omega)]
      · intro latched
        obtain ⟨horder, hsuffix⟩ := hlatched latched
        refine ⟨horder, hsuffix, hsuffix.length_le.trans ?_⟩
        rcases List.eq_nil_or_concat' (Run.polls trace) with hnone | ⟨batches, last, hpolls⟩
        · rw [hnone]
          exact Nat.zero_le _
        · rw [hpolls, List.getLastD_concat]
          refine hpolled.batches last ?_
          rw [hpolls]
          exact List.mem_append_right _ List.mem_cons_self

/-- Of seven datagrams one is no packet, one has no payload, one meets a full queue, and two are
abandoned. -/
theorem samples_accounted_sevenDatagrams : ∃ trace summary node abandoned,
    (system EpollReceiver.dottedCalls (arriving sevenDatagrams) singleConfig wideReceiver).Reaches
      (trace ++ [.returned summary]) node ∧
    node.service.queues.poppedCount 2 = 7 ∧
    (handlerInvocations trace).map (·.sequenceNumber) = [1, 2] ∧
    summary.receiverMetrics.packetsRejected = 1 ∧ summary.sampleMetrics.payloadsRejected = 1 ∧
    (refusedPackets trace).map (·.packet.header.sequenceNumber) = [3] ∧ abandoned.length = 2 ∧
    SamplesAccounted EpollReceiver.dottedCalls wideReceiver trace summary node abandoned := by
  obtain ⟨trace, node, metrics, hrun, hhanded, -, -, hrefused, hpopped, haccepted, hrejected,
    hreceived, hpayloads, hstage⟩ := exists_sevenRun
  have hfewer : node.service.queues.poppedCount 2 < 2 ^ 64 := by
    rw [hpopped]
    decide
  have hreturned := reaches_returned hrun hstage
  obtain ⟨abandoned, haccounted⟩ :=
    samples_accounted (fun _ => rfl) (by decide) rfl hreturned hfewer
  have habandoned := haccounted.received
  change node.run.receiverMetrics.packetsAccepted.toNat =
    node.run.packetsReceived.toNat + abandoned.length at habandoned
  rw [haccepted, hreceived] at habandoned
  exact ⟨trace, _, _, abandoned, hreturned, hpopped, hhanded, hrejected, hpayloads, hrefused,
    (Nat.add_left_cancel habandoned).symm, haccounted⟩

end Accounts

end Node

end Driveflow.Runtime
