import Driveflow.Laws.Protocol.PayloadLayout
import Driveflow.Net.UdpSocket

/-!
# A payload in its envelope in a datagram

The three limits are declared apart and meet at one boundary: the largest camera payload fills the
largest packet payload, and the largest packet fills the largest datagram.
-/

namespace Driveflow.Protocol

open Library Net

/-- The three limits, stacked: tail, payload and datagram. -/
theorem limits_meet :
    kCameraMetaFixedPayloadSize + kMaxCameraExtraDataSize = kMaxPayloadSize ∧
      kPacketHeaderSize + kMaxPayloadSize = kMaxUdpPayloadSize := ⟨rfl, rfl⟩

/-- The layout of a valid payload fits the envelope. -/
theorem length_payloadLayout_le {payload : SensorPayload} (valid : payload.validate = .kNone) :
    (payloadLayout payload).length ≤ kMaxPayloadSize := by
  cases payload with
  | imuSample sample =>
    exact Nat.le_trans (Nat.le_of_eq (length_imuLayout sample)) (by decide)
  | gnssFix fix =>
    exact Nat.le_trans (Nat.le_of_eq (length_gnssLayout fix)) (by decide)
  | cameraMeta metadata =>
    have hextra := ((SensorPayload.validate_iff _).mp valid).2.2
    refine Nat.le_trans (Nat.le_of_eq (length_cameraLayout metadata _)) ?_
    rw [← limits_meet.1]
    exact Nat.add_le_add_left hextra _

theorem isKnownMessageType_messageType (payload : SensorPayload) :
    isKnownMessageType payload.messageType.value = true := by
  cases payload with
  | imuSample sample => rfl
  | gnssFix fix => rfl
  | cameraMeta metadata => rfl

/-- A camera record whose tail takes all the room there is. -/
def largestCamera : CameraMeta :=
  { frameId := 0, width := 1, height := 1, exposureTimeUs := 0
    extraData := List.replicate kMaxCameraExtraDataSize 0 }

/-- **A valid payload survives the whole stack.** It is encoded, enveloped and fits a datagram:
`send_to` never refuses it for its length, a receiver with a default buffer takes it whole, and
both decoders hand back what went in. -/
theorem datagram_roundTrip (payload : SensorPayload) (sequenceNumber sourceTimestampNs : BitVec 64)
    (valid : payload.validate = .kNone) :
    ∃ bytes datagram packet,
      encodeSensorPayload payload = .ok bytes ∧
      encodePacket payload.messageType sequenceNumber sourceTimestampNs bytes = .ok datagram ∧
      datagram.length ≤ kMaxUdpPayloadSize ∧
      (∀ calls destination what, sendTo calls datagram destination ≠ .error (.lengthError what)) ∧
      (∀ calls sender source, fromSockaddr calls sender = .ok source →
        tryReceive calls (.datagram datagram sender) =
          .ok (some { bytes := datagram, source })) ∧
      decodePacket datagram = some { packet := some packet, error := .kNone } ∧
      packet.header.sequenceNumber = sequenceNumber ∧
      packet.header.sourceTimestampNs = sourceTimestampNs ∧
      decodeSensorPayload packet.header.messageType packet.payload =
        some { payload := some payload, error := .kNone } := by
  have hfits := length_payloadLayout_le valid
  have hencode := encodePacket_eq sequenceNumber sourceTimestampNs
    (isKnownMessageType_messageType payload) hfits
  have hdecode := decodesTo_iff_decodePacket.mp (decodesTo_of_encodePacket hencode)
  have hsize : (layout (sealedHeader payload.messageType sequenceNumber sourceTimestampNs
      (payloadLayout payload)) (payloadLayout payload)).length ≤ kMaxUdpPayloadSize := by
    rw [length_layout, ← limits_meet.2]
    exact Nat.add_le_add_left hfits _
  refine ⟨_, _, _, encodeSensorPayload_eq valid, hencode, hsize,
    fun _ _ what => sendTo_ne_lengthError hsize what, ?_, hdecode, rfl, rfl,
    decodeSensorPayload_layout valid⟩
  intro calls sender source hsource
  rw [tryReceive, receiveDatagram_eq (by decide) (Nat.le_refl _) hsize, hsource]
  rfl

/-- The largest camera payload fits a datagram and comes back. -/
theorem datagram_roundTrip_largestCamera :
    ∃ bytes datagram packet,
      encodeSensorPayload (.cameraMeta largestCamera) = .ok bytes ∧
      encodePacket .kCameraMeta 7 9 bytes = .ok datagram ∧
      datagram.length ≤ kMaxUdpPayloadSize ∧
      decodePacket datagram = some { packet := some packet, error := .kNone } ∧
      decodeSensorPayload packet.header.messageType packet.payload =
        some { payload := some (.cameraMeta largestCamera), error := .kNone } := by
  obtain ⟨bytes, datagram, packet, hpayload, hpacket, hsize, _, _, hdecode, _, _, hback⟩ :=
    datagram_roundTrip (.cameraMeta largestCamera) 7 9
      ((SensorPayload.validate_iff _).mpr
        ⟨by decide, by decide, Nat.le_of_eq List.length_replicate⟩)
  exact ⟨bytes, datagram, packet, hpayload, hpacket, hsize, hdecode, hback⟩

end Driveflow.Protocol
