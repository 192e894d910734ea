import Driveflow.Laws.Runtime.Node
import Driveflow.Laws.Simulator.TrackerAgreement

/-!
# The simulator into the runtime

Both ends of the wire: a simulator has sent its datagrams, and a node has read what came of them at
its sockets. Between them is a network. One that may lose, repeat, delay and reorder datagrams, but
makes up none (`Carries`), is enough for every sample the handler is given to be one the simulator
generated and left whole. Over one that delivers what was sent in order (`Link`) the summaries of the
two ends agree.
-/

namespace Driveflow

open Library Net Protocol Simulator Driveflow.Runtime

open EpollReceiver (decoded decodes returnedFor arrivedBefore dottedCalls)
open Node (Polled ReadFrom)
open Run (consideredPackets handlerInvocations polledPackets)

/-- The network makes up no datagram. -/
def Carries (session : Session) (moments : Nat → Moment) : Prop :=
  ∀ call, ∀ arrival ∈ (moments call).arrivals, ∃ datagram ∈ session.sent,
    datagram.packet.bytes = arrival.2.bytes

/-- The datagrams of a session arrive at one listener, from one address and in the order in which
they were sent, as far as they have arrived; nothing else arrives anywhere. -/
structure Link (session : Session) (remote : Sockaddr) (index : Nat) (moments : Nat → Moment) :
    Prop where
  inOrder : ∀ receives,
    ((arrivedBefore moments receives index).map fun datagram => (datagram.bytes, datagram.sender)) <+:
      session.sent.map fun datagram => (datagram.packet.bytes, remote)
  quiet : ∀ receives other, other ≠ index → arrivedBefore moments receives other = []

/-! ## Samples -/

section Samples

variable {calls calls' : SocketCalls} {config : SimulatorConfig} {timestamps : Nat → BitVec 64}
  {listener : Ipv4Endpoint} {popped : QueuedDatagram × BitVec 64} {sample : SensorSample} {k : Nat}

/-- The sample is the `k`-th one of the simulator. -/
structure IsGenerated (config : SimulatorConfig) (timestamps : Nat → BitVec 64) (k : Nat)
    (sample : SensorSample) : Prop where
  sequenceNumber : sample.sequenceNumber = number k
  sourceTimestampNs : sample.sourceTimestampNs = timestamps (k - 1)
  payload : sample.payload =
    makeSensorSample config.sensorType (number k) config.cameraExtraDataBytes

/-- A sample that is read is what the decoder makes of its datagram. -/
theorem decodesTo_of_readFrom (read : ReadFrom calls listener popped sample) :
    ∃ payload, encodeSensorPayload sample.payload = .ok payload ∧
      DecodesTo popped.1.bytes
        { header := sealedHeader sample.payload.messageType sample.sequenceNumber
            sample.sourceTimestampNs payload
          payload } := by
  obtain ⟨payload, hpayload, hpacket⟩ := bind_eq_ok.mp read.bytes
  exact ⟨payload, hpayload, decodesTo_of_encodePacket hpacket⟩

/-- A payload that is encoded is found again. -/
theorem payload_of_encode {first second : SensorPayload} {bytes : Bytes}
    (type : first.messageType = second.messageType)
    (h : encodeSensorPayload first = .ok bytes) (h' : encodeSensorPayload second = .ok bytes) :
    first = second := by
  have hfinds {payload : SensorPayload} (hencodes : encodeSensorPayload payload = .ok bytes) :
      ∃ result, decodeSensorPayload payload.messageType bytes = some result ∧
        result.payload = some payload := by
    have hvalid : payload.validate = .kNone := by
      by_contra hinvalid
      obtain ⟨what, herror⟩ := encodeSensorPayload_error hinvalid
      rw [herror] at hencodes
      cases hencodes
    rw [encodeSensorPayload_eq hvalid] at hencodes
    exact decodeSensorPayload_iff.mpr ⟨rfl, hvalid, (Except.ok.inj hencodes).symm⟩
  obtain ⟨result, hresult, hfirst⟩ := hfinds h
  obtain ⟨result', hresult', hsecond⟩ := hfinds h'
  rw [type, hresult'] at hresult
  cases hresult
  exact Option.some.inj (hfirst.symm.trans hsecond)

/-- **A sample that is read from a datagram of the simulator is the sample it was made of**, and the
datagram was not corrupted. -/
theorem isGenerated_of_readFrom (accepted : Accepted calls' config)
    (read : ReadFrom calls listener popped sample)
    (bytes : popped.1.bytes = (packetAt config timestamps k).bytes) :
    matchesInterval config.faults.corruptEvery (number k) = false ∧
      IsGenerated config timestamps k sample := by
  obtain ⟨payload, hpayload, result, hdecodes, hpacket⟩ := decodesTo_of_readFrom read
  rw [bytes] at hdecodes
  have hsound : matchesInterval config.faults.corruptEvery (number k) = false := by
    have hsome := isSome_decodePacket_packetAt accepted timestamps k
    have hflag : (packetAt config timestamps k).corrupted =
        matchesInterval config.faults.corruptEvery (number k) := rfl
    rw [hdecodes, Option.bind_some, hpacket, hflag, Option.isSome_some] at hsome
    exact Bool.not_eq_true' _ |>.mp hsome.symm
  refine ⟨hsound, ?_⟩
  have hwhole : (packetAt config timestamps k).bytes =
      sampleBytes config (number k) (timestamps (k - 1)) := by
    simp [packetAt, FaultInjector.pendingPacket, hsound]
  rw [hwhole, decodePacket_sampleBytes accepted] at hdecodes
  cases hdecodes
  have hsame := Option.some.inj hpacket
  have hheader := congrArg Packet.header hsame
  have htype := congrArg PacketHeader.messageType hheader
  refine ⟨(congrArg PacketHeader.sequenceNumber hheader).symm,
    (congrArg PacketHeader.sourceTimestampNs hheader).symm, ?_⟩
  refine payload_of_encode ?_ hpayload ?_
  · rw [messageType_makeSensorSample]
    exact htype.symm
  · rw [encodeSensorPayload_eq (makeSensorSample_valid accepted.extraData _ _)]
    exact congrArg Except.ok (congrArg Packet.payload hsame)

end Samples

/-! ## A simulation that is delivered -/

/-- A datagram as it arrives at a socket, if it fits one. -/
def queued (remote : Sockaddr) (datagram : SentDatagram) : Option QueuedDatagram :=
  if fits : datagram.packet.bytes.length ≤ kMaxUdpPayloadSize then
    some { bytes := datagram.packet.bytes, sender := remote, fits }
  else none

/-- All that a session has sent is at one listener before the first receive call. -/
def delivered (session : Session) (remote : Sockaddr) (index : Nat) : Nat → Moment :=
  Node.arriving ((session.sent.filterMap (queued remote)).map (index, ·))

section Delivered

variable {session : Session} {remote : Sockaddr} {index : Nat}

/-- What arrives before the first receive call has arrived before every later one. -/
theorem arrivedBefore_arriving (arrivals : List (Nat × QueuedDatagram)) (receives index : Nat) :
    arrivedBefore (Node.arriving arrivals) (receives + 1) index = arrivalsAt arrivals index := by
  induction receives with
  | zero => exact List.append_nil _
  | succ receives ih =>
    rw [EpollReceiver.arrivedBefore_succ, ih]
    exact List.append_nil _

/-- All that is delivered arrives at the one listener. -/
theorem arrivalsAt_map (datagrams : List QueuedDatagram) (other : Nat) :
    arrivalsAt (datagrams.map (index, ·)) other = if index = other then datagrams else [] := by
  rw [arrivalsAt, List.filterMap_map]
  split
  next hindex =>
    refine (List.filterMap_congr fun datagram _ => ?_).trans List.filterMap_some
    exact if_pos hindex
  next hindex =>
    refine List.filterMap_eq_nil_iff.mpr fun datagram _ => ?_
    exact if_neg hindex

/-- A delivery makes up nothing. -/
theorem carries_delivered : Carries session (delivered session remote index) := by
  intro call arrival harrival
  unfold delivered Node.arriving at harrival
  split at harrival
  · obtain ⟨datagram, hqueued, rfl⟩ := List.mem_map.mp harrival
    obtain ⟨sent, hsent, hgives⟩ := List.mem_filterMap.mp hqueued
    unfold queued at hgives
    split at hgives
    · cases hgives
      exact ⟨sent, hsent, rfl⟩
    · cases hgives
  · exact absurd harrival List.not_mem_nil

/-- **A delivery is a link**, where every datagram fits a socket. -/
theorem link_delivered
    (fits : ∀ datagram ∈ session.sent, datagram.packet.bytes.length ≤ kMaxUdpPayloadSize) :
    Link session remote index (delivered session remote index) := by
  have hqueued : (session.sent.filterMap (queued remote)).map
      (fun datagram => (datagram.bytes, datagram.sender)) =
      session.sent.map fun datagram => (datagram.packet.bytes, remote) := by
    rw [List.map_filterMap, ← List.filterMap_eq_map]
    refine List.filterMap_congr fun datagram hmem => ?_
    rw [queued, dif_pos (fits datagram hmem)]
    rfl
  constructor
  · intro receives
    cases receives with
    | zero => exact List.nil_prefix
    | succ receives =>
      rw [delivered, arrivedBefore_arriving, arrivalsAt_map, if_pos rfl, hqueued]
  · intro receives other ne
    cases receives with
    | zero => rfl
    | succ receives => rw [delivered, arrivedBefore_arriving, arrivalsAt_map, if_neg (Ne.symm ne)]

/-- Every datagram of a simulation fits a socket. -/
theorem sent_fits {environment : Environment} {config : SimulatorConfig} {stop : StopPredicate}
    {passes : Nat} {outcome : Outcome}
    (simulated : runSimulator environment config (some stop) passes = .ok outcome) :
    ∀ datagram ∈ outcome.session.sent,
      datagram.packet.bytes.length ≤ kMaxUdpPayloadSize := by
  obtain ⟨accepted, m, numbers, hreached, _⟩ := runSimulator_reached simulated
  intro datagram hmem
  rw [hreached.sent] at hmem
  obtain ⟨k, hk, hpacket⟩ := packet_of_mem_datagramsOf hmem
  rw [hpacket, length_packetAt]
  exact length_sampleBytes accepted _ _

end Delivered

/-- Where the datagrams of the examples come from. -/
def simulatorAddress : Sockaddr := { address := 0x7f000001, port := 40000 }

/-- As many packets are polled, and each of them is submitted, taken and handed out before the next
one; then the run stops. -/
def deliveredActions (packets : Nat) : List Node.Action :=
  .step (.askStop false) :: .poll [0] ::
    (List.replicate packets (Node.submitActions ++ Node.handActions)).flatten ++ Node.stopActions

/-- A simulation of eight packets, and what a node does with all that it sent. -/
def deliveredRun (config : SimulatorConfig) (packets : Nat) :
    Option (Outcome × Node × List Run.Event) := do
  let outcome ← (runSimulator loopback config (some never) 8).toOption
  let moments := delivered outcome.session simulatorAddress 0
  let result ← performAll (Node.perform dottedCalls moments)
    { run := Run.startState Node.singleConfig, service := { receiver := Node.wideReceiver } }
    (deliveredActions packets)
  some (outcome, result)

/-- The sequence numbers of the samples handed out, and what the two ends have counted. -/
def deliveredFacts (session : Session) (node : Node) (trace : List Run.Event) :
    List (List (BitVec 64)) × Nat × Run.Stage :=
  ([(handlerInvocations trace).map (·.sequenceNumber),
    [session.summary.packetsSent, session.summary.corruptedPacketsSent,
      session.summary.packetsDropped, session.summary.duplicatePacketsSent,
      session.summary.reorderEvents],
    [node.run.receiverMetrics.datagramsReceived, node.run.packetsReceived]],
    session.sent.length, node.run.stage)

/-- It is a simulation that returns, and a run of the node up to where it returns. -/
theorem of_deliveredRun {config : SimulatorConfig} {packets : Nat}
    {facts : List (List (BitVec 64)) × Nat × Run.Stage}
    (h : (deliveredRun config packets).map (fun result =>
      (deliveredFacts result.1.session result.2.1 result.2.2,
        decide (result.1 = .returned result.1.session))) = some (facts, true)) :
    ∃ session trace node,
      runSimulator loopback config (some never) 8 = .ok (.returned session) ∧
      (Node.system dottedCalls (delivered session simulatorAddress 0) Node.singleConfig
        Node.wideReceiver).Reaches trace node ∧
      deliveredFacts session node trace = facts := by
  obtain ⟨⟨outcome, node, trace⟩, hresult, hfacts⟩ := Option.map_eq_some_iff.mp h
  obtain ⟨outcome', houtcome, hrest⟩ := Option.bind_eq_some_iff.mp hresult
  obtain ⟨result, hactions, hend⟩ := Option.bind_eq_some_iff.mp hrest
  cases hend
  obtain ⟨hfacts, hreturned⟩ := Prod.mk.inj hfacts
  have hreturned := of_decide_eq_true hreturned
  refine ⟨outcome.session, trace, node, ?_, ?_, ?_⟩
  · cases hsimulated : runSimulator loopback config (some never) 8 with
    | error exception =>
      rw [hsimulated] at houtcome
      cases houtcome
    | ok other =>
      rw [hsimulated] at houtcome
      rw [← hreturned]
      exact congrArg Except.ok (Option.some.inj houtcome)
  · have hstart : (Node.system dottedCalls (delivered outcome.session simulatorAddress 0)
        Node.singleConfig Node.wideReceiver).initial
        { run := Run.startState Node.singleConfig
          service := { receiver := Node.wideReceiver } } := ⟨_, rfl, rfl⟩
    exact (System.Reaches.start hstart).performAll (fun _ action _ _ h => ⟨action, h⟩) _ hactions
  · exact hfacts

/-- Eight packets with every kind of fault. -/
theorem eightPackets_delivered : ∃ session trace node,
    runSimulator loopback eightPackets (some never) 8 = .ok (.returned session) ∧
    (Node.system dottedCalls (delivered session simulatorAddress 0) Node.singleConfig
      Node.wideReceiver).Reaches trace node ∧
    deliveredFacts session node trace =
      ([[1, 3, 3, 2, 4, 7, 8], [9, 2, 1, 2, 2], [9, 7]], 9,
        .collecting 9
          { packetsSubmitted := 7, packetsProcessed := 7, queueHighWatermark := 1 }) := by
  refine @of_deliveredRun eightPackets 7 _ ?_
  decide +kernel

/-- The same ones without corruption. -/
theorem soundPackets_delivered : ∃ session trace node,
    runSimulator loopback soundPackets (some never) 8 = .ok (.returned session) ∧
    (Node.system dottedCalls (delivered session simulatorAddress 0) Node.singleConfig
      Node.wideReceiver).Reaches trace node ∧
    deliveredFacts session node trace =
      ([[1, 3, 3, 2, 6, 6, 4, 7, 8], [9, 0, 1, 2, 2], [9, 9]], 9,
        .collecting 9
          { packetsSubmitted := 9, packetsProcessed := 9, queueHighWatermark := 1 }) := by
  refine @of_deliveredRun soundPackets 9 _ ?_
  decide +kernel

/-! ## Any network -/

section AnyNetwork

variable {environment : Environment} {config : SimulatorConfig} {stop : StopPredicate}
  {passes : Nat} {outcome : Outcome} {calls : SocketCalls} {moments : Nat → Moment}
  {runtimeConfig : RuntimeConfig} {receiver : EpollReceiver} {trace : List Run.Event} {node : Node}

/-- What is taken from a queue had arrived there. -/
theorem exists_arrival (polled : Polled calls moments receiver trace node) {index : Nat}
    {popped : QueuedDatagram × BitVec 64} (h : popped ∈ node.service.queues.popped index) :
    ∃ call, (index, popped.1) ∈ (moments call).arrivals := by
  have hmem : popped.1 ∈ arrivedBefore moments node.service.queues.receives index := by
    rw [polled.service.sound.kept]
    exact List.mem_append_left _ (List.mem_map_of_mem h)
  obtain ⟨call, _, hcall⟩ := List.mem_flatMap.mp hmem
  obtain ⟨⟨at', datagram⟩, harrival, hgives⟩ := List.mem_filterMap.mp hcall
  split at hgives
  next hindex =>
    cases hgives
    rw [← show at' = index from hindex]
    exact ⟨call, harrival⟩
  next => cases hgives

/-- **Every sample the handler is given is one that the simulator generated and left whole**, whatever
the network loses, repeats, delays or reorders: in every reachable state of the node, at any time of
the simulation. -/
theorem samples_of_simulation
    (simulated : runSimulator environment config (some stop) passes = .ok outcome)
    (carries : Carries outcome.session moments)
    (named : ∀ address, (calls.inetNtop address).isSome) (distinct : receiver.listeners.Nodup)
    (run : (Node.system calls moments runtimeConfig receiver).Reaches trace node) :
    ∃ m, outcome.session.summary.packetsGenerated = number m ∧
      ∀ sample ∈ handlerInvocations trace, ∃ k, 1 ≤ k ∧ k ≤ m ∧
        matchesInterval config.faults.dropEvery (number k) = false ∧
        matchesInterval config.faults.corruptEvery (number k) = false ∧
        IsGenerated config environment.timestamps k sample := by
  obtain ⟨accepted, m, numbers, hreached, hplanned⟩ := runSimulator_reached simulated
  have hpolled := Node.polled named distinct run
  refine ⟨m, hreached.generated, fun sample hmem => ?_⟩
  obtain ⟨index, popped, hpopped, hread⟩ := Node.exists_readFrom hpolled run hmem
  obtain ⟨call, harrival⟩ := exists_arrival hpolled hpopped
  obtain ⟨datagram, hsent, hbytes⟩ := carries call _ harrival
  rw [hreached.sent] at hsent
  obtain ⟨k, hk, hpacket⟩ := packet_of_mem_datagramsOf hsent
  obtain ⟨⟨hfirst, hlast⟩, hkept⟩ := mem_order_plan.mp (hplanned k hk)
  rw [hpacket] at hbytes
  obtain ⟨hsound, hgenerated⟩ := isGenerated_of_readFrom accepted hread hbytes.symm
  exact ⟨k, hfirst, hlast, hkept, hsound, hgenerated⟩

/-- Eight packets with every fault injected: the samples handed out are those of the packets
neither dropped nor corrupted, one of them twice and one behind its successor. -/
theorem samples_of_simulation_eightPackets : ∃ session trace node,
    runSimulator loopback eightPackets (some never) 8 = .ok (.returned session) ∧
    Carries session (delivered session simulatorAddress 0) ∧
    (Node.system dottedCalls (delivered session simulatorAddress 0) Node.singleConfig
      Node.wideReceiver).Reaches trace node ∧
    (handlerInvocations trace).map (·.sequenceNumber) = [1, 3, 3, 2, 4, 7, 8] ∧
    ∃ m, session.summary.packetsGenerated = number m ∧
      ∀ sample ∈ handlerInvocations trace, ∃ k, 1 ≤ k ∧ k ≤ m ∧
        matchesInterval eightPackets.faults.dropEvery (number k) = false ∧
        matchesInterval eightPackets.faults.corruptEvery (number k) = false ∧
        IsGenerated eightPackets loopback.timestamps k sample := by
  obtain ⟨session, trace, node, hsimulated, hrun, hfacts⟩ := eightPackets_delivered
  simp only [deliveredFacts, Prod.mk.injEq, List.cons.injEq] at hfacts
  exact ⟨session, trace, node, hsimulated, carries_delivered, hrun, hfacts.1.1,
    samples_of_simulation hsimulated carries_delivered (fun _ => rfl) (by decide) hrun⟩

end AnyNetwork

/-! ## A network that delivers in order -/

section Delivery

variable {session : Session} {remote : Sockaddr} {index : Nat} {moments : Nat → Moment}
  {calls : SocketCalls} {receiver : EpollReceiver} {trace : List Run.Event} {node : Node}
  {listener : Ipv4Endpoint}

/-- What was taken from the listener is what was sent first. -/
theorem Link.popped (link : Link session remote index moments)
    (polled : Polled calls moments receiver trace node) :
    ((node.service.queues.popped index).map fun popped => (popped.1.bytes, popped.1.sender)) <+:
      session.sent.map fun datagram => (datagram.packet.bytes, remote) := by
  have htaken : (node.service.queues.popped index).map (·.1) <+:
      arrivedBefore moments node.service.queues.receives index := by
    rw [polled.service.sound.kept]
    exact List.prefix_append _ _
  have hmapped := htaken.map fun datagram : QueuedDatagram => (datagram.bytes, datagram.sender)
  rw [List.map_map] at hmapped
  exact hmapped.trans (link.inOrder _)

/-- Nothing was taken from another listener. -/
theorem Link.popped_other (link : Link session remote index moments)
    (polled : Polled calls moments receiver trace node) {other : Nat} (ne : other ≠ index) :
    node.service.queues.popped other = [] := by
  have hkept := polled.service.sound.kept other
  rw [link.quiet _ other ne] at hkept
  exact List.map_eq_nil_iff.mp (List.append_eq_nil_iff.mp hkept.symm).1

/-- The datagrams taken are those of the one listener. -/
theorem Link.poppedCount (link : Link session remote index moments)
    (polled : Polled calls moments receiver trace node)
    (known : receiver.listeners[index]? = some listener) :
    node.service.queues.poppedCount receiver.listeners.length =
      (node.service.queues.popped index).length := by
  obtain ⟨hindex, _⟩ := List.getElem?_eq_some_iff.mp known
  refine Finset.sum_eq_single_of_mem index (Finset.mem_range.mpr hindex) fun other _ ne => ?_
  rw [link.popped_other polled ne]
  rfl

/-- The packets returned are those of the one listener. -/
theorem Link.returned (link : Link session remote index moments)
    (polled : Polled calls moments receiver trace node)
    (known : receiver.listeners[index]? = some listener) :
    node.service.returned =
      (node.service.queues.popped index).filterMap (decoded calls listener) := by
  rw [← polled.service.sound.inOrder index listener known]
  refine (List.filter_eq_self.mpr fun packet hmem => decide_eq_true ?_).symm
  obtain ⟨other, hother, hlistener⟩ := List.getElem_of_mem (polled.known packet hmem)
  have hat : receiver.listeners[other]? = some packet.listener := by
    rw [← hlistener]
    exact List.getElem?_eq_getElem hother
  by_cases ne : other = index
  · rw [ne, known] at hat
    exact (Option.some.inj hat).symm
  · -- another listener has returned nothing
    have hnone := polled.service.sound.inOrder other packet.listener hat
    rw [link.popped_other polled ne, List.filterMap_nil] at hnone
    have hreturned : packet ∈ returnedFor packet.listener node.service.returned :=
      List.mem_filter.mpr ⟨hmem, decide_eq_true rfl⟩
    rw [hnone] at hreturned
    exact absurd hreturned List.not_mem_nil

/-- How many packets the datagrams of a session give. -/
theorem countP_decodable {environment : Environment} {config : SimulatorConfig}
    (accepted : Accepted environment.calls config) {m : Nat} {numbers : List Nat}
    (reached : Reached config (packetAt config environment.timestamps) m numbers session) :
    (session.sent.countP fun datagram => decodable datagram.packet.bytes) =
      session.sent.countP fun datagram => !datagram.packet.corrupted := by
  refine List.countP_congr fun datagram hmem => ?_
  rw [reached.sent] at hmem
  obtain ⟨k, _, hpacket⟩ := packet_of_mem_datagramsOf hmem
  rw [hpacket, decodable, isSome_decodePacket_packetAt accepted environment.timestamps k]

/-- As many packets are returned as there are decodable datagrams, once all of them were taken. -/
theorem Link.length_returned (link : Link session remote index moments)
    (polled : Polled calls moments receiver trace node)
    (known : receiver.listeners[index]? = some listener)
    (named : ∀ address, (calls.inetNtop address).isSome)
    (all : session.sent.length ≤ (node.service.queues.popped index).length) :
    node.service.returned.length =
      session.sent.countP fun datagram => decodable datagram.packet.bytes := by
  have hprefix := link.popped polled
  have hsame := hprefix.eq_of_length_le (by rw [List.length_map, List.length_map]; exact all)
  have hcount := congrArg (List.countP fun sent => decodable sent.1) hsame
  rw [List.countP_map, List.countP_map] at hcount
  rw [link.returned polled known, List.length_filterMap_eq_countP]
  refine Eq.trans (List.countP_congr fun popped _ => ?_) hcount
  rw [EpollReceiver.isSome_decoded named]
  rfl

/-- The datagrams of a session, all of them taken and all of them decodable, are received as they
were sent. -/
theorem receivedFrom_of_taken {address : String} (text : calls.inetNtop remote.address = some address)
    {popped : List (QueuedDatagram × BitVec 64)} {sent : List SentDatagram}
    (same : (popped.map fun popped => (popped.1.bytes, popped.1.sender)) =
      sent.map fun datagram => (datagram.packet.bytes, remote))
    (decodes : ∀ entry ∈ popped, (decoded calls listener entry).isSome) :
    List.Forall₂ (ReceivedFrom { address, port := remote.port } listener) sent
      (popped.filterMap (decoded calls listener)) := by
  induction sent generalizing popped with
  | nil =>
    rw [List.map_eq_nil_iff.mp same]
    exact .nil
  | cons datagram sent ih =>
    cases popped with
    | nil => cases same
    | cons entry popped =>
      obtain ⟨hentry, hrest⟩ := List.cons.inj same
      obtain ⟨hbytes, hsender⟩ := Prod.mk.inj hentry
      obtain ⟨packet, hpacket⟩ := Option.isSome_iff_exists.mp (decodes entry List.mem_cons_self)
      rw [List.filterMap_cons, hpacket]
      refine .cons ?_ (ih hrest fun other hmem => decodes other (List.mem_cons_of_mem _ hmem))
      obtain ⟨inner, hinner, hend⟩ := Option.bind_eq_some_iff.mp hpacket
      obtain ⟨name, hname, hmade⟩ := Option.bind_eq_some_iff.mp hend
      cases hmade
      rw [hsender, text] at hname
      cases hname
      rw [hbytes] at hinner
      exact ⟨Option.bind_eq_some_iff.mp hinner, by rw [hsender], rfl⟩

end Delivery

section InOrder

variable {environment : Environment} {config : SimulatorConfig} {stop : StopPredicate}
  {passes : Nat} {outcome : Outcome} {calls : SocketCalls} {moments : Nat → Moment}
  {runtimeConfig : RuntimeConfig} {receiver : EpollReceiver} {trace : List Run.Event} {node : Node}
  {remote : Sockaddr} {index : Nat} {listener : Ipv4Endpoint} {summary : RuntimeSummary}

/-- **The receiver counts the corruption that the simulator injected.** When the run has received as
many datagrams as the simulator says it has sent, it has rejected as many as the simulator says it
has corrupted, and accepted the others. Fewer than `2 ^ 64` were sent. -/
theorem corruption_agrees
    (simulated : runSimulator environment config (some stop) passes = .ok outcome)
    (fewer : outcome.session.sent.length < 2 ^ 64)
    (link : Link outcome.session remote index moments)
    (known : receiver.listeners[index]? = some listener)
    (named : ∀ address, (calls.inetNtop address).isSome) (distinct : receiver.listeners.Nodup)
    (fresh : receiver.metrics = {})
    (run : (Node.system calls moments runtimeConfig receiver).Reaches
      (trace ++ [.returned summary]) node)
    (all : summary.receiverMetrics.datagramsReceived = outcome.session.summary.packetsSent) :
    summary.receiverMetrics.packetsRejected = outcome.session.summary.corruptedPacketsSent ∧
      summary.receiverMetrics.packetsAccepted =
        outcome.session.summary.packetsSent - outcome.session.summary.corruptedPacketsSent := by
  obtain ⟨accepted, m, numbers, hreached, _⟩ := runSimulator_reached simulated
  obtain ⟨earlier, hearlier, action, hperform⟩ := run.last
  have hpolled := Node.polled named distinct hearlier
  have hcounted := hpolled.service.sound
  rw [fresh] at hcounted
  obtain ⟨hreceived, haccepts, houtcomes⟩ := hcounted.of_first
  have hmetrics : summary.receiverMetrics = earlier.service.receiver.metrics := by
    rw [← hpolled.metrics]
    cases Node.transition_of_perform hperform with
    | step steps quiet =>
      cases Run.transition_of_perform steps with
      | returned timestamp metrics stands => rfl
  rw [hmetrics] at all ⊢
  -- all that was sent was taken
  rw [link.poppedCount hpolled known, all, hreached.counted.sent] at hreceived
  have htaken := (link.popped hpolled).length_le
  rw [List.length_map, List.length_map] at htaken
  have hcount := congrArg BitVec.toNat hreceived
  rw [BitVec.toNat_ofNat, BitVec.toNat_ofNat, Nat.mod_eq_of_lt fewer,
    Nat.mod_eq_of_lt (Nat.lt_of_le_of_lt htaken fewer)] at hcount
  have hreturned := link.length_returned hpolled known named (Nat.le_of_eq hcount)
  rw [countP_decodable accepted hreached] at hreturned
  have hsplit := List.length_eq_countP_add_countP
    (fun datagram : SentDatagram => datagram.packet.corrupted) (l := outcome.session.sent)
  simp only [Bool.not_eq_true, Bool.decide_eq_false] at hsplit
  have haccepted : earlier.service.receiver.metrics.packetsAccepted =
      outcome.session.summary.packetsSent - outcome.session.summary.corruptedPacketsSent := by
    rw [haccepts, hreturned, hreached.counted.sent,
      hreached.counted.corrupted, hsplit, BitVec.ofNat_add, BitVec.add_comm, BitVec.add_sub_cancel]
  refine ⟨?_, haccepted⟩
  rw [all, haccepted, BitVec.add_comm] at houtcomes
  exact (BitVec.eq_sub_iff_add_eq.mpr houtcomes.symm).trans (by bv_omega)

/-- Two of the nine datagrams sent are corrupted and rejected, and seven are accepted. -/
theorem corruption_agrees_eightPackets : ∃ session trace summary node,
    runSimulator loopback eightPackets (some never) 8 = .ok (.returned session) ∧
    Link session simulatorAddress 0 (delivered session simulatorAddress 0) ∧
    (Node.system dottedCalls (delivered session simulatorAddress 0) Node.singleConfig
      Node.wideReceiver).Reaches (trace ++ [.returned summary]) node ∧
    session.summary.packetsSent = 9 ∧ session.summary.corruptedPacketsSent = 2 ∧
    summary.receiverMetrics.packetsRejected = session.summary.corruptedPacketsSent ∧
      summary.receiverMetrics.packetsAccepted =
        session.summary.packetsSent - session.summary.corruptedPacketsSent := by
  obtain ⟨session, trace, node, hsimulated, hrun, hfacts⟩ := eightPackets_delivered
  simp only [deliveredFacts, Prod.mk.injEq, List.cons.injEq] at hfacts
  obtain ⟨⟨-, ⟨hsent, hcorrupted, -⟩, ⟨hdatagrams, -⟩, -⟩, hlength, hstage⟩ := hfacts
  have hlink := @link_delivered session simulatorAddress 0 (sent_fits hsimulated)
  have hreturned := Node.reaches_returned hrun hstage
  have hfewer : session.sent.length < 2 ^ 64 := by
    rw [hlength]
    decide
  exact ⟨session, trace, _, _, hsimulated, hlink, hreturned, hsent, hcorrupted,
    corruption_agrees hsimulated hfewer hlink rfl (fun _ => rfl) (by decide) rfl hreturned
      (hdatagrams.trans hsent.symm)⟩

/-- The metrics of the streams in a summary are those of a fresh tracker that observes what the run
considered. -/
theorem streamMetrics_eq {config : RuntimeConfig} {state next : Run.State}
    (run : (Run.system config).Reaches trace state)
    (step : Run.Transition state (.returned summary) next) :
    summary.streamMetrics = (SensorStreamTracker.observeAll
      { config := { maxSources := config.health.maxSources } } (consideredPackets trace)).metrics ∧
      0 < config.health.maxSources := by
  obtain ⟨_, monitor, _, _, hmade, _⟩ := run.exists_initial
  have hmonitor := Run.healthMonitor_eq hmade run
  obtain ⟨hvalid, rfl⟩ := make_eq_ok hmade
  constructor
  · cases step with
    | returned timestamp metrics stands =>
      show state.healthMonitor.streamTracker.metrics = _
      rw [hmonitor, runEvents_streamTracker, Run.observedPackets_healthEvents]
  · exact Nat.pos_of_ne_zero (validateConfig_eq_ok hvalid).2.1

/-- **The runtime reports exactly the faults that the simulator injected.** Without corruption, and
when nothing interrupts the simulator and the runtime has considered as many packets as the simulator
says it has sent, the stream metrics of the one summary are the fault counters of the other, however
the workers are scheduled and whatever the handler does. Fewer than `2 ^ 64` datagrams were sent. -/
theorem faults_agree {session : Session}
    (simulated : runSimulator environment config (some never) passes = .ok (.returned session))
    (sound : config.faults.corruptEvery = none) (fewer : session.sent.length < 2 ^ 64)
    (link : Link session remote index moments)
    (known : receiver.listeners[index]? = some listener)
    (named : ∀ address, (calls.inetNtop address).isSome) (distinct : receiver.listeners.Nodup)
    (run : (Node.system calls moments runtimeConfig receiver).Reaches
      (trace ++ [.returned summary]) node)
    (all : summary.packetsReceived = session.summary.packetsSent) :
    ∃ n, config.packetCount = some (number n) ∧
      TrackerAgrees config environment.timestamps n session summary.streamMetrics := by
  obtain ⟨accepted, -⟩ := runSimulator_reached simulated
  obtain ⟨n, hcomplete⟩ : ∃ n,
      Complete config (packetAt config environment.timestamps) n session := by
    rcases runSimulator_never simulated with ⟨_, hrunning, _⟩ | ⟨_, hcomplete⟩
    · cases hrunning
    · exact hcomplete
  obtain ⟨earlier, hearlier, action, hperform⟩ := run.last
  have hpolled := Node.polled named distinct hearlier
  have hrun := Node.reaches_run hearlier
  obtain ⟨next, hstep⟩ : ∃ next, Run.Transition earlier.run (.returned summary) next := by
    cases Node.transition_of_perform hperform with
    | step steps quiet => exact ⟨_, Run.transition_of_perform steps⟩
  obtain ⟨hmetrics, hpositive⟩ := streamMetrics_eq hrun hstep
  have hcount : summary.packetsReceived = BitVec.ofNat 64 (consideredPackets trace).length :=
    Node.packetsReceived_eq hrun hstep
  -- considered, returned, taken and sent: no list is longer than the next
  have hconsidered : (consideredPackets trace).Sublist earlier.service.returned := by
    rw [hpolled.returned]
    exact (List.sublist_append_left _ _).trans (Run.considered_sublist hrun)
  have hreturned := link.returned hpolled known
  have hfilter := List.length_filterMap_le (decoded calls listener)
    (earlier.service.queues.popped index)
  have htaken := link.popped hpolled
  have hsent := htaken.length_le
  rw [List.length_map, List.length_map] at hsent
  have hreturnedLength := congrArg List.length hreturned
  have hconsideredLength := hconsidered.length_le
  -- the counters say that the first is as long as the last
  have hall : (consideredPackets trace).length = session.sent.length := by
    have hsame := congrArg BitVec.toNat
      (hcount.symm.trans (all.trans hcomplete.reached.counted.sent))
    rwa [BitVec.toNat_ofNat, BitVec.toNat_ofNat, Nat.mod_eq_of_lt fewer,
      Nat.mod_eq_of_lt (by omega)] at hsame
  have hwhole := htaken.eq_of_length (by rw [List.length_map, List.length_map]; omega)
  have hsame := hconsidered.eq_of_length (by omega)
  have hdecodes := List.filterMap_length_eq_length.mp
    (show ((earlier.service.queues.popped index).filterMap (decoded calls listener)).length = _ by
      omega)
  obtain ⟨address, haddress⟩ := Option.isSome_iff_exists.mp (named remote.address)
  have hreceived := receivedFrom_of_taken haddress hwhole hdecodes
  rw [← hreturned, ← hsame] at hreceived
  refine ⟨n, hcomplete.count, ?_⟩
  rw [hmetrics]
  exact hcomplete.trackerAgrees accepted sound hpositive hreceived

/-- One packet is dropped, two are duplicated and two swaps are completed; the tracker finds them
all. -/
theorem faults_agree_soundPackets : ∃ session trace summary node n,
    runSimulator loopback soundPackets (some never) 8 = .ok (.returned session) ∧
    Link session simulatorAddress 0 (delivered session simulatorAddress 0) ∧
    (Node.system dottedCalls (delivered session simulatorAddress 0) Node.singleConfig
      Node.wideReceiver).Reaches (trace ++ [.returned summary]) node ∧
    session.summary.packetsDropped = 1 ∧ session.summary.duplicatePacketsSent = 2 ∧
    session.summary.reorderEvents = 2 ∧ soundPackets.packetCount = some (number n) ∧
    TrackerAgrees soundPackets loopback.timestamps n session summary.streamMetrics := by
  obtain ⟨session, trace, node, hsimulated, hrun, hfacts⟩ := soundPackets_delivered
  simp only [deliveredFacts, Prod.mk.injEq, List.cons.injEq] at hfacts
  obtain ⟨⟨-, ⟨hsent, -, hdropped, hduplicates, hreorders, -⟩, ⟨-, hreceived, -⟩, -⟩, hlength,
    hstage⟩ := hfacts
  have hlink := @link_delivered session simulatorAddress 0 (sent_fits hsimulated)
  have hreturned := Node.reaches_returned hrun hstage
  have hfewer : session.sent.length < 2 ^ 64 := by
    rw [hlength]
    decide
  obtain ⟨n, hn, hagrees⟩ := faults_agree hsimulated rfl hfewer hlink rfl (fun _ => rfl)
    (by decide) hreturned (hreceived.trans hsent.symm)
  exact ⟨session, trace, _, _, n, hsimulated, hlink, hreturned, hdropped, hduplicates, hreorders,
    hn, hagrees⟩

end InOrder

end Driveflow
