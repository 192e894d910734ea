import Driveflow.Laws.Simulator.Interruption
import Driveflow.Runtime.EpollReceiver

/-!
# Every datagram of a run, decoded

A packet is encoded first and corrupted after, by one bit of its last byte. So a datagram that was
left alone comes back as the sample it was made of, and a corrupted one fails the last check of the
decoder and none before it. The flag of a packet says which, also for a packet that was held or is
sent twice, and the summary counts by the flag.
-/

namespace Driveflow.Simulator

open Library Net Protocol Driveflow.Runtime Session

/-- A datagram of the sequence number decodes as the simulator meant it to. -/
def DecodesAsMeant (config : SimulatorConfig) (sequenceNumber : BitVec 64) (bytes : Bytes) : Prop :=
  if Divides config.faults.corruptEvery sequenceNumber.toNat then
    decodePacket bytes = some (decodeFailure .kCrcMismatch)
  else
    ∃ packet, decodePacket bytes = some { packet := some packet, error := .kNone } ∧
      packet.header.sequenceNumber = sequenceNumber ∧
      packet.header.messageType = config.sensorType.messageType ∧
      decodeSensorPayload packet.header.messageType packet.payload =
        some { payload := some (makeSensorSample config.sensorType sequenceNumber
          config.cameraExtraDataBytes), error := .kNone }

section Packets

variable {calls : SocketCalls} {config : SimulatorConfig} (accepted : Accepted calls config)
  (sequenceNumber timestampNs : BitVec 64)

include accepted

/-- The packet of a sample is accepted, as that sample's. -/
theorem decodePacket_sampleBytes :
    decodePacket (sampleBytes config sequenceNumber timestampNs) =
      some
        { packet := some
            { header := sampleHeader config sequenceNumber timestampNs
              payload := samplePayload config sequenceNumber }
          error := .kNone } := by
  refine decodesTo_iff_decodePacket.mp (decodesTo_iff.mpr
    ⟨?_, length_samplePayload accepted sequenceNumber, rfl, rfl⟩)
  change isKnownMessageType config.sensorType.messageType.value = true
  rw [← messageType_makeSensorSample config.sensorType 0 0]
  exact isKnownMessageType_messageType _

/-- **One flipped bit of the last byte** fails the checksum, and nothing that is checked before. -/
theorem decodePacket_flipLastByte :
    decodePacket (flipLastByte (sampleBytes config sequenceNumber timestampNs)) =
      some (decodeFailure .kCrcMismatch) := by
  have hsize := length_sampleBytes_ge config sequenceNumber timestampNs
  have hflip (bytes : Bytes) : flipLastByte bytes = flipBit bytes (bytes.length - 1) 0 := rfl
  have hsound : syndrome (sampleBytes config sequenceNumber timestampNs) = 0#32 := by
    rw [sampleBytes, syndrome_layout]
    exact BitVec.xor_self
  refine decodePacket_crcMismatch
    (decodesTo_iff_decodePacket.mpr (decodePacket_sampleBytes accepted sequenceNumber timestampNs))
    (length_flipLastByte _) (fun k hk => getElem?_flipLastByte (by omega)) ?_
  rw [hflip]
  exact syndrome_flipBit_ne hsize (by omega) (by decide) hsound

/-- **A packet of a run decodes as meant.** -/
theorem decodesAsMeant_packetAt (timestamps : Nat → BitVec 64) (k : Nat) :
    DecodesAsMeant config (number k) (packetAt config timestamps k).bytes := by
  have hsize := length_sampleBytes_ge config (number k) (timestamps (k - 1))
  have hnonempty :
      (sampleBytes config (number k) (timestamps (k - 1))).isEmpty = false := by
    rw [List.isEmpty_eq_false_iff]
    exact List.ne_nil_of_length_pos (by omega)
  unfold DecodesAsMeant packetAt FaultInjector.pendingPacket
  dsimp only
  rw [hnonempty, Bool.not_false, Bool.and_true]
  by_cases hcorrupted : matchesInterval config.faults.corruptEvery (number k) = true
  · rw [if_pos hcorrupted, if_pos (matchesInterval_iff_divides.mp hcorrupted)]
    exact decodePacket_flipLastByte accepted _ _
  · rw [if_neg hcorrupted, if_neg fun h => hcorrupted (matchesInterval_iff_divides.mpr h)]
    refine ⟨_, decodePacket_sampleBytes accepted _ _, rfl, rfl, ?_⟩
    change decodeSensorPayload config.sensorType.messageType _ = _
    rw [← messageType_makeSensorSample config.sensorType (number k) config.cameraExtraDataBytes]
    exact decodeSensorPayload_layout (makeSensorSample_valid accepted.extraData _ _)

/-- The decoder has a packet for a datagram unless its flag says it was corrupted. -/
theorem isSome_decodePacket_packetAt (timestamps : Nat → BitVec 64) (k : Nat) :
    ((decodePacket (packetAt config timestamps k).bytes).bind DecodeResult.packet).isSome =
      !(packetAt config timestamps k).corrupted := by
  have hmeant := decodesAsMeant_packetAt accepted timestamps k
  have hflag : (packetAt config timestamps k).corrupted =
      matchesInterval config.faults.corruptEvery (number k) := rfl
  unfold DecodesAsMeant at hmeant
  cases hcorrupted : matchesInterval config.faults.corruptEvery (number k) with
  | true =>
    rw [if_pos (matchesInterval_iff_divides.mp hcorrupted)] at hmeant
    rw [hmeant, hflag, hcorrupted]
    rfl
  | false =>
    rw [if_neg fun h => Bool.false_ne_true
      (hcorrupted.symm.trans (matchesInterval_iff_divides.mpr h))] at hmeant
    obtain ⟨packet, hdecode, _⟩ := hmeant
    rw [hdecode, hflag, hcorrupted]
    rfl

end Packets

/-! ## What a receiver counts -/

/-- A receiver that is handed these datagrams, with the clock after each. -/
def receiveAll (listener : Ipv4Endpoint) (datagrams : List (ReceivedDatagram × BitVec 64)) :
    EpollReceiver.Drained :=
  datagrams.foldl
    (fun drained datagram => EpollReceiver.receiveOne listener drained datagram.1 datagram.2)
    ({}, [])

/-- The decoder has a packet for the datagram. -/
def decodable (bytes : Bytes) : Bool := ((decodePacket bytes).bind DecodeResult.packet).isSome

/-- **The receiver counts by what decodes.** -/
theorem receiveAll_counts (listener : Ipv4Endpoint)
    (datagrams : List (ReceivedDatagram × BitVec 64)) :
    (receiveAll listener datagrams).1.packetsAccepted = BitVec.ofNat 64
        (datagrams.countP fun datagram => decodable datagram.1.bytes) ∧
      (receiveAll listener datagrams).1.packetsRejected = BitVec.ofNat 64
        (datagrams.countP fun datagram => !decodable datagram.1.bytes) ∧
      (receiveAll listener datagrams).2.length =
        datagrams.countP fun datagram => decodable datagram.1.bytes := by
  induction datagrams using List.reverseRecOn with
  | nil => exact ⟨rfl, rfl, rfl⟩
  | append_singleton datagrams datagram ih =>
    obtain ⟨haccepted, hrejected, hlength⟩ := ih
    have hstep : receiveAll listener (datagrams ++ [datagram]) =
        EpollReceiver.receiveOne listener (receiveAll listener datagrams) datagram.1
          datagram.2 := by
      rw [receiveAll, List.foldl_append]
      rfl
    rw [hstep, List.countP_append, List.countP_append, List.countP_singleton,
      List.countP_singleton, BitVec.ofNat_add, BitVec.ofNat_add, ← haccepted, ← hrejected,
      ← hlength]
    unfold EpollReceiver.receiveOne decodable
    dsimp only
    cases (decodePacket datagram.1.bytes).bind DecodeResult.packet with
    | none => exact ⟨(BitVec.add_zero _).symm, rfl, rfl⟩
    | some packet => exact ⟨rfl, (BitVec.add_zero _).symm, List.length_append⟩

/-! ## The theorem -/

/-- **Every simulated datagram is fully valid or detectably corrupted.** For every sequence number
the encoders succeed and the datagram fits. Whatever a run has sent, each datagram carries a
generated sequence number and decodes as meant for it. And a receiver that gets all of them, in
whatever order, accepts the sent less the corrupted and rejects the corrupted. -/
theorem datagrams_valid_or_corrupted (environment : Environment) (config : SimulatorConfig)
    (accepted : validateRuntimeConfig environment.calls config = .ok ()) :
    (∀ sequenceNumber timestampNs, ∃ payload bytes,
      encodeSensorPayload (makeSensorSample config.sensorType sequenceNumber
        config.cameraExtraDataBytes) = .ok payload ∧
      encodePacket (makeSensorSample config.sensorType sequenceNumber
        config.cameraExtraDataBytes).messageType sequenceNumber timestampNs payload = .ok bytes ∧
      bytes.length ≤ kMaxUdpPayloadSize) ∧
    ∀ stop passes outcome,
      runSimulator environment config (some stop) passes = .ok outcome →
        (∃ m, outcome.session.summary.packetsGenerated = number m ∧
          ∀ datagram ∈ outcome.session.sent, ∃ k, 1 ≤ k ∧ k ≤ m ∧
            datagram.label.sequenceNumber = number k ∧
            (datagram.label.corrupted = true ↔
              Divides config.faults.corruptEvery (number k).toNat) ∧
            DecodesAsMeant config (number k) datagram.packet.bytes) ∧
        ∀ listener (datagrams : List (ReceivedDatagram × BitVec 64)),
          (datagrams.map fun datagram => datagram.1.bytes).Perm
              (outcome.session.sent.map fun datagram => datagram.packet.bytes) →
            (receiveAll listener datagrams).1.packetsAccepted =
                outcome.session.summary.packetsSent -
                  outcome.session.summary.corruptedPacketsSent ∧
              (receiveAll listener datagrams).1.packetsRejected =
                outcome.session.summary.corruptedPacketsSent ∧
              (receiveAll listener datagrams).2.length =
                outcome.session.sent.length -
                  outcome.session.sent.countP fun datagram => datagram.packet.corrupted := by
  have haccepted := validateRuntimeConfig_iff.mp accepted
  constructor
  · intro sequenceNumber timestampNs
    have hvalid := makeSensorSample_valid haccepted.extraData config.sensorType sequenceNumber
    have hencode := encodeSample_eq haccepted sequenceNumber timestampNs
    rw [encodeSample, encodeSensorPayload_eq hvalid] at hencode
    exact ⟨_, _, encodeSensorPayload_eq hvalid, hencode,
      length_sampleBytes haccepted sequenceNumber timestampNs⟩
  · intro stop passes outcome hrun
    obtain ⟨_, m, numbers, hreached, hplanned⟩ := runSimulator_reached hrun
    have hmember (datagram : SentDatagram) (h : datagram ∈ outcome.session.sent) :
        ∃ k ∈ numbers, datagram.packet = packetAt config environment.timestamps k := by
      rw [hreached.sent] at h
      exact packet_of_mem_datagramsOf h
    constructor
    · refine ⟨m, hreached.generated, fun datagram h => ?_⟩
      obtain ⟨k, hk, hpacket⟩ := hmember datagram h
      obtain ⟨⟨hfirst, hlast⟩, _⟩ := mem_order_plan.mp (hplanned k hk)
      refine ⟨k, hfirst, hlast, ?_, ?_, ?_⟩
      · rw [SentDatagram.label, hpacket, sequenceNumber_packetAt]
      · rw [SentDatagram.label, hpacket]
        exact matchesInterval_iff_divides
      · rw [hpacket]
        exact decodesAsMeant_packetAt haccepted environment.timestamps k
    · intro listener datagrams hall
      obtain ⟨hacceptedCount, hrejectedCount, hlength⟩ := receiveAll_counts listener datagrams
      -- the decoder and the flag of the packet agree on every datagram
      have hcount (rule : Bool → Bool) :
          datagrams.countP (fun datagram => rule (decodable datagram.1.bytes)) =
            outcome.session.sent.countP fun datagram => rule !datagram.packet.corrupted := by
        have hmap := hall.countP_eq fun bytes => rule (decodable bytes)
        rw [List.countP_map, List.countP_map] at hmap
        refine hmap.trans (List.countP_congr fun datagram h => ?_)
        obtain ⟨k, _, hpacket⟩ := hmember datagram h
        rw [Function.comp_apply, hpacket, decodable,
          isSome_decodePacket_packetAt haccepted environment.timestamps k]
      have hdecoded := hcount id
      have hrefused := hcount (!·)
      simp only [Bool.not_not, id_eq] at hdecoded hrefused
      have hsplit := List.length_eq_countP_add_countP
        (fun datagram : SentDatagram => datagram.packet.corrupted) (l := outcome.session.sent)
      have hnot : outcome.session.sent.countP (fun datagram => !datagram.packet.corrupted) =
          outcome.session.sent.length -
            outcome.session.sent.countP fun datagram => datagram.packet.corrupted := by
        rw [hsplit]
        simp only [Bool.not_eq_true, Bool.decide_eq_false]
        omega
      refine ⟨?_, ?_, ?_⟩
      · rw [hacceptedCount, hdecoded, hreached.counted.sent, hreached.counted.corrupted, hsplit,
          BitVec.ofNat_add, BitVec.add_comm, BitVec.add_sub_cancel]
        simp only [Bool.not_eq_true, Bool.decide_eq_false]
      · rw [hrejectedCount, hrefused, hreached.counted.corrupted]
      · rw [hlength, hdecoded, hnot]

/-- The eight packets, of which the sixth is corrupted, and is sent twice. -/
theorem datagrams_valid_or_corrupted_eightPackets :
    ∃ session, runSimulator loopback eightPackets (some never) 8 = .ok (.returned session) ∧
      ∃ m, session.summary.packetsGenerated = number m ∧
        ∀ datagram ∈ session.sent, ∃ k, 1 ≤ k ∧ k ≤ m ∧
          datagram.label.sequenceNumber = number k ∧
          (datagram.label.corrupted = true ↔
            Divides eightPackets.faults.corruptEvery (number k).toNat) ∧
          DecodesAsMeant eightPackets (number k) datagram.packet.bytes := by
  obtain ⟨session, hrun⟩ := runSimulator_returns
    (validateRuntimeConfig_iff.mp eightPackets_accepted) rfl
    (delivers_of_sendto (by decide) fun _ _ => rfl) steady_never (.inl ⟨8, rfl, Nat.le_refl 8⟩)
  exact ⟨session, hrun, ((datagrams_valid_or_corrupted loopback eightPackets
    eightPackets_accepted).2 never 8 (.returned session) hrun).1⟩

end Driveflow.Simulator
